/-
# Visa.Limits -- what the limits of the broker bound

Requests are counted under the state lock and judged after it, by many workers at once.
A connection whose request went over a limit answers it and ends, so it goes over once,
and what is counted beyond a limit is bounded by the connections (`reachable_within`).
`limits_hold` reads the bounds off the invariant.

Poles: `limits_counted`.
-/
import InstrumentBench.Visa.Transitions

namespace InstrumentBench.Visa

set_option autoImplicit false

open InstrumentBench.Theory

/-! ## What a phase holds of the limits -/

/-- One when the connection has counted a request over a limit, or its loop has ended. -/
def Phase.spent : Phase → Nat
  | .counted _ exceeded | .requested _ exceeded | .answering _ exceeded _ => exceeded.toNat
  | .opening | .idle | .waiting _ _ | .holding _ _ _ => 0
  | .failing | .ending | .cleaning _ _ | .cleaned _ | .closed _ | .removed _ => 1

/-- One when a request within the limits has yet to be invoked. -/
def Phase.due : Phase → Nat
  | .counted _ exceeded | .requested _ exceeded => (!exceeded).toNat
  | .waiting _ _ => 1
  | _ => 0

theorem Phase.spent_le (phase : Phase) : phase.spent ≤ 1 := by
  cases phase with
  | counted _ exceeded | requested _ exceeded | answering _ exceeded _ =>
      exact Bool.toNat_le exceeded
  | opening | idle | waiting | holding => exact Nat.zero_le 1
  | failing | ending | cleaning | cleaned | closed | removed => exact Nat.le_refl 1

/-! ## Sums over the connections -/

/-- A quantity of the phases, over all connections. -/
def Broker.total (b : Broker) (f : Phase → Nat) : Nat :=
  (b.connections.map fun conn => f conn.phase).sum

/-- The connections that are still in `_states`. -/
def Broker.live (b : Broker) : Nat :=
  b.connections.countP fun conn => !conn.phase.isRemoved

theorem sum_map_set {α : Type} (f : α → Nat) {l : List α} {i : Nat} {a : α} (a' : α)
    (at_ : l[i]? = some a) : ((l.set i a').map f).sum + f a = (l.map f).sum + f a' := by
  induction l generalizing i with
  | nil => cases at_
  | cons first l ih =>
      cases i with
      | zero =>
          cases at_
          simp only [List.set_cons_zero, List.map_cons, List.sum_cons]
          omega
      | succ i =>
          have rest := ih at_
          simp only [List.set_cons_succ, List.map_cons, List.sum_cons]
          omega

section

variable {b b' : Broker} {c : Nat} {conn conn' : Connection}

theorem total_set (f : Phase → Nat) (at_ : b.connections[c]? = some conn)
    (connections : b'.connections = b.connections.set c conn') :
    b'.total f + f conn.phase = b.total f + f conn'.phase := by
  rw [Broker.total, connections]
  exact sum_map_set (fun conn => f conn.phase) conn' at_

theorem live_set (at_ : b.connections[c]? = some conn)
    (connections : b'.connections = b.connections.set c conn')
    (removed : conn.phase.isRemoved = true → conn'.phase.isRemoved = true) : b'.live ≤ b.live := by
  have short : c < b.connections.length := (List.getElem?_eq_some_iff.1 at_).1
  have here : b.connections[c] = conn := (List.getElem?_eq_some_iff.1 at_).2
  rw [Broker.live, connections, List.countP_set short, here]
  cases gone : conn.phase.isRemoved with
  | true => simp [removed gone, Broker.live]
  | false =>
      have counted : 0 < b.live :=
        List.countP_pos_iff.2 ⟨conn, List.mem_of_getElem? at_, by simp [gone]⟩
      have one : (if (!conn'.phase.isRemoved) = true then 1 else 0) ≤ 1 := by split <;> omega
      simp only [Broker.live, Bool.not_false, if_true] at counted ⊢
      omega

theorem total_append (f : Phase → Nat)
    (connections : b'.connections = b.connections ++ [conn']) :
    b'.total f = b.total f + f conn'.phase := by
  simp [Broker.total, connections]

/-! ## The invariant -/

/-- What the limits leave of a broker's counters. -/
structure Within (b : Broker) : Prop where
  counted : b.connectionCount = b.connections.length
  connections : b.connections.length ≤ Broker.maxTotalConnections
  live : b.live ≤ Broker.maxConnections
  own : ∀ conn ∈ b.connections,
    conn.requestCount ≤ Broker.maxRequestsPerConnection + conn.phase.spent
  requests : b.requestCount ≤ Broker.maxTotalRequests + b.total Phase.spent
  invoked : b.minted.length + b.total Phase.due ≤ min b.requestCount Broker.maxTotalRequests

/-- Nothing the limits are about has changed. -/
theorem Within.stands (within : Within b) (connections : b'.connections = b.connections)
    (connectionCount : b'.connectionCount = b.connectionCount)
    (requestCount : b'.requestCount = b.requestCount) (minted : b'.minted = b.minted) :
    Within b' := by
  have total : ∀ f, b'.total f = b.total f := by
    intro f
    rw [Broker.total, connections, Broker.total]
  have live : b'.live = b.live := by rw [Broker.live, connections, Broker.live]
  exact
    { counted := by rw [connectionCount, connections, within.counted]
      connections := by rw [connections]; exact within.connections
      live := by rw [live]; exact within.live
      own := by rw [connections]; exact within.own
      requests := by rw [requestCount, total]; exact within.requests
      invoked := by rw [requestCount, minted, total]; exact within.invoked }

/-- A connection has changed: what is left to show is about its own counts. -/
theorem Within.set (within : Within b) (at_ : b.connections[c]? = some conn)
    (connections : b'.connections = b.connections.set c conn')
    (connectionCount : b'.connectionCount = b.connectionCount)
    (removed : conn.phase.isRemoved = true → conn'.phase.isRemoved = true)
    (own : conn'.requestCount ≤ Broker.maxRequestsPerConnection + conn'.phase.spent)
    (requests : b'.requestCount + conn.phase.spent ≤
      max b.requestCount (Broker.maxTotalRequests + b.total Phase.spent) + conn'.phase.spent)
    (invoked : b'.minted.length + conn'.phase.due + min b.requestCount Broker.maxTotalRequests ≤
      b.minted.length + conn.phase.due + min b'.requestCount Broker.maxTotalRequests) :
    Within b' := by
  have spent := total_set Phase.spent at_ connections
  have due := total_set Phase.due at_ connections
  have before := within.requests
  have room := within.invoked
  have length : b'.connections.length = b.connections.length := by rw [connections, List.length_set]
  exact
    { counted := by rw [connectionCount, length, within.counted]
      connections := by rw [length]; exact within.connections
      live := (live_set at_ connections removed).trans within.live
      own := by
        intro other member
        rw [connections] at member
        rcases List.mem_or_eq_of_mem_set member with old | rfl
        · exact within.own other old
        · exact own
      requests := by omega
      invoked := by omega }

/-! ## Steps -/

/-- A move that counts no request spends no request twice. -/
theorem Moves.keeps {setup : Setup} {action : Action} {library : Library} {bodies : List Body}
    {issued : List Text} (moves : Moves setup b c conn action conn' library bodies issued)
    (other : ∀ operation args, action ≠ .receive c operation args) :
    conn'.requestCount = conn.requestCount ∧ conn.phase.spent ≤ conn'.phase.spent ∧
      issued.length + conn'.phase.due ≤ conn.phase.due ∧
      (conn.phase.isRemoved = true → conn'.phase.isRemoved = true) := by
  cases moves with
  | received request exceeded requestCount phase => exact absurd rfl (other _ _)
  | admitted env phase decided =>
      rename_i exceeded _
      cases exceeded with
      | true => cases decided
      | false => simp [phase, Phase.spent, Phase.due, Phase.isRemoved]
  | replied env phase =>
      rename_i exceeded _ _
      cases exceeded <;> simp [phase, Phase.spent, Phase.due, Phase.isRemoved]
  | refused env phase rejects =>
      rename_i exceeded _ _ _
      cases exceeded <;> simp [phase, Phase.spent, Phase.due, Phase.isRemoved]
  | failed env phase trusted next =>
      have small := conn.phase.spent_le
      rcases next with rfl | rfl <;>
        exact ⟨rfl, small, Nat.zero_le _, by simp [phase, Phase.isRemoved]⟩
  | disconnected free phase cleans =>
      exact ⟨rfl, conn.phase.spent_le, Nat.zero_le _, by
        rcases phase with phase | phase <;> simp [phase, Phase.isRemoved]⟩
  | opening env phase | malformed phase | requested env phase | settled env phase decided
  | invoked phase free fresh made | emitted env phase | released env phase | failing env phase
  | swept env phase | cleaned env phase | closed env phase | removed env phase =>
      simp [phase, Phase.spent, Phase.due, Phase.isRemoved]

theorem advance_counts {setup : Setup} {now : Int} {env : Env}
    (stepped : advance setup b now c conn env = some b') :
    b'.connectionCount = b.connectionCount ∧ b'.requestCount = b.requestCount := by
  unfold advance at stepped
  repeat' split at stepped
  all_goals cases stepped
  all_goals exact ⟨rfl, rfl⟩

/-- Only `new_connection` and `dispatch` count. -/
theorem step_counts {setup : Setup} {now : Int} {action : Action}
    (stepped : step setup b now action = some b')
    (connects : ∀ peerUid, action ≠ .connect peerUid)
    (receives : ∀ c operation args, action ≠ .receive c operation args) :
    b'.connectionCount = b.connectionCount ∧ b'.requestCount = b.requestCount := by
  cases action with
  | connect peerUid => exact absurd rfl (connects peerUid)
  | receive c operation args => exact absurd rfl (receives c operation args)
  | advance c env =>
      obtain ⟨conn, -, stepped⟩ := Option.bind_eq_some_iff.1 stepped
      exact advance_counts stepped
  | malformed c =>
      obtain ⟨conn, -, stepped⟩ := Option.bind_eq_some_iff.1 stepped
      split at stepped
      all_goals cases stepped
      exact ⟨rfl, rfl⟩
  | disconnect c =>
      obtain ⟨conn, -, stepped⟩ := Option.bind_eq_some_iff.1 stepped
      unfold disconnect at stepped
      repeat' split at stepped
      all_goals cases stepped
      all_goals exact ⟨rfl, rfl⟩
  | freeze | finish | forceSafe =>
      simp only [step] at stepped
      split at stepped
      all_goals cases stepped
      exact ⟨rfl, rfl⟩
  | note kind =>
      cases stepped
      exact ⟨rfl, rfl⟩

/-- `new_connection` checks both limits before it counts. -/
theorem Within.connect {now : Int} {peerUid : Nat} (within : Within b)
    (stepped : connect b now peerUid = some b') : Within b' := by
  unfold Visa.connect at stepped
  split at stepped
  · cases stepped
  split at stepped
  · cases stepped
    exact within.stands rfl rfl rfl rfl
  · rename_i room
    cases stepped
    rw [not_or, Nat.not_le, Nat.not_le] at room
    exact
      { counted := by simp [within.counted]
        connections := by
          rw [within.counted] at room
          simpa using room.1
        live := by simpa [Broker.live, Phase.isRemoved] using room.2
        own := by
          intro conn member
          rcases List.mem_append.1 member with old | new
          · exact within.own conn old
          · rw [List.mem_singleton.1 new]
            exact Nat.zero_le _
        requests := by
          rw [total_append Phase.spent rfl]
          exact within.requests
        invoked := by
          rw [total_append Phase.due rfl]
          exact within.invoked }

/-- What `dispatch` counts under the state lock it also judges there. -/
theorem receive_cases {request : Request} (stepped : receive b c conn request = some b') :
    ∃ exceeded : Bool, conn.phase = .idle ∧ b'.connectionCount = b.connectionCount ∧
      b'.connections = b.connections.set c
        { conn with requestCount := conn.requestCount + 1, phase := .counted request exceeded } ∧
      b'.requestCount = b.requestCount + 1 ∧ b'.minted = b.minted ∧
      (exceeded = false → conn.requestCount + 1 ≤ Broker.maxRequestsPerConnection ∧
        b.requestCount + 1 ≤ Broker.maxTotalRequests) := by
  unfold receive at stepped
  split at stepped
  case h_2 => cases stepped
  rename_i phase
  cases stepped
  refine ⟨_, phase, rfl, rfl, rfl, rfl, fun judged => ?_⟩
  simp only [Bool.or_eq_false_iff, decide_eq_false_iff_not, Nat.not_lt] at judged
  exact judged.1

theorem Within.receive {request : Request} (within : Within b)
    (at_ : b.connections[c]? = some conn) (stepped : receive b c conn request = some b') :
    Within b' := by
  obtain ⟨exceeded, phase, connectionCount, connections, requestCount, minted, judged⟩ :=
    receive_cases stepped
  have own := within.own conn (List.mem_of_getElem? at_)
  rw [phase, Phase.spent] at own
  refine within.set at_ connections connectionCount (by simp [phase, Phase.isRemoved]) ?_ ?_ ?_
  all_goals
    simp only [phase, requestCount, minted, Phase.spent, Phase.due]
    cases exceeded with
    | true =>
        simp only [Bool.toNat_true, Bool.not_true, Bool.toNat_false]
        omega
    | false =>
        obtain ⟨few, fewer⟩ := judged rfl
        simp only [Bool.toNat_false, Bool.not_false, Bool.toNat_true]
        omega

theorem within_step {setup : Setup} {now : Int} {action : Action} (within : Within b)
    (stepped : step setup b now action = some b') : Within b' := by
  by_cases receives : ∃ c operation args, action = .receive c operation args
  · obtain ⟨c, operation, args, rfl⟩ := receives
    obtain ⟨conn, at_, stepped⟩ := Option.bind_eq_some_iff.1 stepped
    exact within.receive at_ stepped
  by_cases connects : ∃ peerUid, action = .connect peerUid
  · obtain ⟨peerUid, rfl⟩ := connects
    exact within.connect stepped
  have other : ∀ c operation args, action ≠ .receive c operation args :=
    fun c operation args same => receives ⟨c, operation, args, same⟩
  obtain ⟨connectionCount, requestCount⟩ :=
    step_counts stepped (fun peerUid same => connects ⟨peerUid, same⟩) other
  obtain ⟨bodies, issued, steps⟩ := step_cases stepped
  rcases steps.does with ⟨c, conn, conn', at_, connections, moves⟩ | ⟨rfl, stands⟩
  · obtain ⟨same, spent, due, removed⟩ := moves.keeps (other c)
    have own := within.own conn (List.mem_of_getElem? at_)
    have minted : b'.minted.length = issued.length + b.minted.length := by
      rw [steps.minted, List.length_append]
    refine within.set at_ connections connectionCount removed ?_ ?_ ?_
    all_goals omega
  · cases stands with
    | connected peerUid library connections => exact absurd ⟨peerUid, rfl⟩ connects
    | turnedAway peerUid reason library connections => exact absurd ⟨peerUid, rfl⟩ connects
    | noted kind quiet stays library connections =>
        exact within.stands connections connectionCount requestCount steps.minted
    | safe sessions calls connections =>
        exact within.stands connections connectionCount requestCount steps.minted

end

/-- **No run leaves the limits.** -/
theorem reachable_within {setup : Setup} {b : Broker} (reached : Reachable setup b) : Within b := by
  induction reached with
  | initial =>
      exact ⟨rfl, Nat.zero_le _, Nat.zero_le _, by simp [Broker.initial], Nat.zero_le _,
        Nat.zero_le _⟩
  | step before stepped ih => exact within_step ih stepped

theorem Broker.total_spent_le (b : Broker) : b.total Phase.spent ≤ b.connections.length := by
  have each : ∀ n ∈ b.connections.map fun conn => conn.phase.spent, n ≤ 1 := by
    intro n listed
    obtain ⟨conn, -, rfl⟩ := List.mem_map.1 listed
    exact conn.phase.spent_le
  simpa [Broker.total] using List.sum_le_card_nsmul _ 1 each

/-! ## The calls of a run -/

/-- How many of the steps of a run call `_invoke`. -/
def invocations (setup : Setup) : Broker → List (Int × Action) → Nat
  | _, [] => 0
  | b, s :: rest =>
      (if (b.call? s.2).isSome then 1 else 0) +
        (step setup b s.1 s.2).elim 0 fun b' => invocations setup b' rest

/-- A step issues a token exactly where it calls `_invoke`. -/
theorem minted_step {setup : Setup} {b b' : Broker} {now : Int} {action : Action}
    (stepped : step setup b now action = some b') :
    b'.minted.length = b.minted.length + if (b.call? action).isSome then 1 else 0 := by
  obtain ⟨bodies, issued, steps⟩ := step_cases stepped
  have counted : issued.length = if (b.call? action).isSome then 1 else 0 := by
    rcases steps.does with ⟨c, conn, conn', at_, -, moves⟩ | ⟨rfl, stands⟩
    · generalize b'.library = library at moves
      cases moves
      case received => rfl
      case malformed => rfl
      case disconnected => rfl
      case invoked phase free fresh made =>
          simp [Broker.call?, at_, phase]
      all_goals simp [Broker.call?, *]
    · cases stands with
      | connected peerUid library connections => rfl
      | turnedAway peerUid reason library connections => rfl
      | noted kind quiet stays library connections =>
          rw [quiet]
          rfl
      | safe sessions calls connections => rfl
  rw [steps.minted, List.length_append, counted, Nat.add_comm]

theorem minted_run {setup : Setup} {b b' : Broker} {steps : List (Int × Action)}
    (ran : run setup b steps = some b') :
    b'.minted.length = b.minted.length + invocations setup b steps := by
  induction steps generalizing b with
  | nil =>
      cases ran
      rfl
  | cons s rest ih =>
      unfold run at ran
      rw [List.foldlM_cons] at ran
      obtain ⟨b₁, stepped, later⟩ := Option.bind_eq_some_iff.1 ran
      rw [ih later, minted_step stepped, invocations, stepped, Nat.add_assoc]
      rfl

/-- **The limits of the broker, over every run.**  However the workers interleave, no more
than `max_total_connections` are ever admitted and `max_connections` kept at a time; a
connection counts at most one request beyond its limit, and the broker at most one for
every connection beyond its own; and the steps of the run that call `_invoke` are at most
the requests counted within the total. -/
theorem limits_hold {setup : Setup} {b : Broker} {steps : List (Int × Action)}
    (ran : run setup (.initial setup.simulator.spec) steps = some b) :
    b.connections.length ≤ Broker.maxTotalConnections ∧ b.live ≤ Broker.maxConnections ∧
      (∀ conn ∈ b.connections, conn.requestCount ≤ Broker.maxRequestsPerConnection + 1) ∧
      b.requestCount ≤ Broker.maxTotalRequests + b.connections.length ∧
      invocations setup (.initial setup.simulator.spec) steps ≤
        min b.requestCount Broker.maxTotalRequests := by
  have within := reachable_within (Reachable.initial.run ran)
  refine ⟨within.connections, within.live, fun conn member => ?_, ?_, ?_⟩
  · exact (within.own conn member).trans (Nat.add_le_add_left conn.phase.spent_le _)
  · exact within.requests.trans (Nat.add_le_add_left b.total_spent_le _)
  · have counted := minted_run ran
    rw [show (Broker.initial setup.simulator.spec).minted.length = 0 from rfl, Nat.zero_add]
      at counted
    rw [← counted]
    exact (Nat.le_add_right _ _).trans within.invoked

/-! ## Poles -/

/-- One connection asks for a resource manager, and then without end for an operation that
does not exist. -/
def insistentRun (requests : Nat) : List (Int × Action) :=
  let next : Int × Action := (0, .advance 0 (.issuing (txt "rm") 1))
  [(0, .connect 10001), next, (0, .receive 0 (txt "open_default_resource_manager") [])] ++
    List.replicate 6 next ++
    (List.replicate requests [(0, .receive 0 (txt "x") []), next, next, next]).flatten

/-- Its 257th request is one too many. -/
theorem limits_counted :
    ∃ b, run nominalBench (.initial nominalBench.simulator.spec) (insistentRun 256) = some b ∧
      b.requestCount = Broker.maxTotalRequests + 1 ∧
      b.requestCount ≤ Broker.maxTotalRequests + b.connections.length ∧
      invocations nominalBench (.initial nominalBench.simulator.spec) (insistentRun 256) ≤
        min b.requestCount Broker.maxTotalRequests := by
  have counts : (run nominalBench (.initial nominalBench.simulator.spec) (insistentRun 256)).any
      (fun b => b.requestCount = Broker.maxTotalRequests + 1) = true := by
    decide +kernel
  obtain ⟨b, ran, counted⟩ := (Option.any_eq_true _ _).1 counts
  obtain ⟨-, -, -, requests, invoked⟩ := limits_hold ran
  exact ⟨b, ran, of_decide_eq_true counted, requests, invoked⟩

end InstrumentBench.Visa
