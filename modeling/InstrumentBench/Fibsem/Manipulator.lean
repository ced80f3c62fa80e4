/-
# Fibsem.Manipulator -- the manipulator under the dispatcher

The dispatcher keeps two laws of the manipulator by flags and checks of its own, beside the
backend that moves it.

* A move needs an insertion before it.  The dispatcher's flag of an insertion is for
  preflight and is never taken back, so that a retraction leaves moves allowed:
  `moves_only_inserted` is the law for runs in which no move follows a retraction before the
  next insertion.

Poles: `inserted_move` and `retracted_move`.
-/
import InstrumentBench.Fibsem.Journaled
import InstrumentBench.Fibsem.Liftout

namespace InstrumentBench.Fibsem.Microscope

set_option autoImplicit false

open InstrumentBench.Theory
open InstrumentBench.Theory.Stateful
open InstrumentBench.Fibsem.Service
open InstrumentBench.Geometry (Steady)

/-! ## The flag of an insertion -/

section

variable {β : Type} {setup : Setup β}

theorem afterReceipt_needleInserted (policy : Policy) (purpose status : Text) :
    (policy.afterReceipt purpose status).preflight.needleInserted =
      policy.preflight.needleInserted := by
  unfold Policy.afterReceipt Policy.completePatternEffect
  split_ifs <;> rfl

/-- Only the follow-up of an insertion sets the flag. -/
theorem followUp_needleInserted (setup : Setup β) (d : OperationDispatcher β) (result : PyValue) {next : FollowUp}
    (other : next ≠ .inserted) :
    (next.run setup d result).2.policy.preflight.needleInserted =
      d.policy.preflight.needleInserted := by
  cases next with
  | inserted => exact absurd rfl other
  | newPattern purpose operation =>
      simp only [FollowUp.run]
      split
      · rfl
      · rename_i made
        obtain ⟨id, status, -, -, rfl⟩ := Policy.recordNewPattern_ok made
        exact afterReceipt_needleInserted _ purpose status
  | patternReceipt id operation =>
      simp only [FollowUp.run]
      split
      · rfl
      · rename_i made
        obtain ⟨status, pattern, -, -, -, rfl⟩ := Policy.recordReceipt_ok made
        exact afterReceipt_needleInserted _ pattern.purpose status
  | checkpoint stepId =>
      simp only [FollowUp.run]
      split
      · rfl
      · rename_i appended
        obtain ⟨event, rfl, -⟩ := append_ok appended
        rfl
  | _ => rfl

/-- An insertion that is not accepted leaves the flag. -/
theorem dispatch_needleInserted (d : OperationDispatcher β) (call : Call)
    (unset : ¬(call.operation = txt "insert_manipulator" ∧ Accepted setup d call)) :
    (dispatch setup d call).2.policy.preflight.needleInserted =
      d.policy.preflight.needleInserted := by
  rcases dispatch_cases setup d call with ⟨a, d', next, invokes, ends⟩ | ⟨-, records⟩
  · rw [ends]
    have before : d'.policy = d.policy := (record_frame invokes.requested).1
    obtain ⟨check, handled, passed⟩ := invokes.checked
    have allowed := passes handled passed
    apply finish_keeps (P := fun b => b.policy.preflight.needleInserted =
      d.policy.preflight.needleInserted) a
    · intro b b' depth kind fields recorded kept
      rw [(record_frame recorded).1]
      exact kept
    · cases ran : perform setup d' call.operation call.arguments next with
      | mk answer d'' =>
          have kept : next ≠ .inserted ∨ ∃ e, answer = .error e := by
            by_cases named : next = .inserted
            · subst named
              right
              cases answer with
              | error e => exact ⟨e, rfl⟩
              | ok result =>
                  exact absurd ⟨allowed, a, d', _, result, d'', invokes, ran⟩ unset
            · exact Or.inl named
          show d''.policy.preflight.needleInserted = _
          rw [← before]
          unfold perform at ran
          split at ran
          case h_1 =>
              cases ran
              rfl
          case h_2 result service _ =>
              have still (other : next ≠ .inserted) :=
                followUp_needleInserted setup { d' with service } result other
              split at ran
              case h_1 failed =>
                  cases ran
                  by_cases named : next = .inserted
                  · subst named
                    cases failed
                  · have := still named
                    rw [failed] at this
                    exact this
              case h_2 done =>
                  cases ran
                  rcases kept with other | ⟨e, raised⟩
                  · have := still other
                    rw [done] at this
                    exact this
                  · cases raised
  · apply records.keeps (P := fun b => b.policy.preflight.needleInserted =
      d.policy.preflight.needleInserted) _ rfl
    intro b b' depth kind fields _ recorded same
    rw [(record_frame recorded).1]
    exact same

/-- Before preflight is complete the flag is set. -/
theorem needleInserted_of_allowed {p : PreflightState}
    (allowed : p.needleInserted = true ∨ p.complete = true) : p.needleInserted = true := by
  rcases allowed with set | complete
  · exact set
  · exact ((complete_iff p).1 complete).2.2.2.2.2.1

/-! ## The last insertion and the last retraction -/

/-- The last accepted insertion or retraction is an insertion. -/
def LastInserted (setup : Setup β) (past : Past β) : Prop :=
  ∃ newer inserted older, past = newer ++ inserted :: older ∧
    inserted.2.operation = txt "insert_manipulator" ∧ Accepted setup inserted.1 inserted.2 ∧
      ∀ entry ∈ newer, entry.2.operation = txt "retract_manipulator" →
        ¬Accepted setup entry.1 entry.2

/-- A retraction was handed to the backend, and no insertion accepted since. -/
def Withdrawn (setup : Setup β) (past : Past β) : Prop :=
  ∃ newer retracted older, past = newer ++ retracted :: older ∧
    retracted.2.operation = txt "retract_manipulator" ∧ Reaches setup retracted.1 retracted.2 ∧
      ∀ entry ∈ newer, entry.2.operation = txt "insert_manipulator" →
        ¬Accepted setup entry.1 entry.2

variable {past : Past β} {d : OperationDispatcher β} {call : Call}

theorem LastInserted.inserted (named : call.operation = txt "insert_manipulator")
    (accepted : Accepted setup d call) : LastInserted setup ((d, call) :: past) :=
  ⟨[], (d, call), past, rfl, named, accepted, fun _ listed => absurd listed List.not_mem_nil⟩

/-- It stays the last while no retraction is accepted. -/
theorem LastInserted.cons (last : LastInserted setup past)
    (kept : call.operation = txt "retract_manipulator" → ¬Accepted setup d call) :
    LastInserted setup ((d, call) :: past) := by
  obtain ⟨newer, inserted, older, rfl, named, accepted, since⟩ := last
  refine ⟨(d, call) :: newer, inserted, older, rfl, named, accepted, ?_⟩
  intro entry listed
  rcases List.mem_cons.1 listed with rfl | later
  · exact kept
  · exact since entry later

theorem Withdrawn.retracted (named : call.operation = txt "retract_manipulator")
    (reaches : Reaches setup d call) : Withdrawn setup ((d, call) :: past) :=
  ⟨[], (d, call), past, rfl, named, reaches, fun _ listed => absurd listed List.not_mem_nil⟩

theorem Withdrawn.cons (withdrawn : Withdrawn setup past)
    (kept : call.operation = txt "insert_manipulator" → ¬Accepted setup d call) :
    Withdrawn setup ((d, call) :: past) := by
  obtain ⟨newer, retracted, older, rfl, named, reaches, since⟩ := withdrawn
  refine ⟨(d, call) :: newer, retracted, older, rfl, named, reaches, ?_⟩
  intro entry listed
  rcases List.mem_cons.1 listed with rfl | later
  · exact kept
  · exact since entry later

end

/-! ## Moves while inserted -/

section

variable {ρ : Type} (it : Apparatus ρ)

/-- The backend keeps its needle where the checkpoint leaves it. -/
theorem exportCheckpoint_steady (stepId : Text) (sequence : Nat) (head : Text)
    (b : Geometry.Backend Float ρ) :
    Steady b (it.exportCheckpoint stepId sequence head b).2 := by
  have images : Leads Steady it.checkpointImages :=
    (Geometry.steady_call _).seq fun _ => (Geometry.steady_call _).seq fun _ => leads_pure _
  have looked := images b
  unfold after at looked
  unfold Apparatus.exportCheckpoint
  split
  · exact Std.Refl.refl b
  · split
    case h_1 ended =>
        rw [ended] at looked
        exact looked
    case h_2 ended =>
        rw [ended] at looked
        exact looked

/-- **What a call does to the needle.** -/
theorem handles_needle {operation : Text} {arguments : Arguments} {b b' : Geometry.Backend Float ρ}
    (handles : Handles it.setup operation arguments b b') :
    Steady b b' ∧ operation ∉ Geometry.needleOperations ∨
      operation ∈ Geometry.needleOperations ∧
        b' = after (Geometry.invoke it.geometry operation arguments) b := by
  have checkpoint : txt "checkpoint" ∉ Geometry.needleOperations := by decide
  cases handles with
  | operation other =>
      by_cases listed : operation ∈ Geometry.needleOperations
      · exact Or.inr ⟨listed, rfl⟩
      · exact Or.inl ⟨Geometry.steady_invoke arguments listed b, listed⟩
  | unexported asked => exact Or.inl ⟨Std.Refl.refl b, asked ▸ checkpoint⟩
  | exported asked stepId sequence head =>
      exact Or.inl ⟨exportCheckpoint_steady it stepId sequence head b, asked ▸ checkpoint⟩

/-- While no retraction is pending, the flag tells the truth. -/
def Truthful (past : Past (Geometry.Backend Float ρ))
    (d : OperationDispatcher (Geometry.Backend Float ρ)) : Prop :=
  ¬Withdrawn it.setup past → d.policy.preflight.needleInserted = true →
    d.service.backend.needleInserted = true ∧ LastInserted it.setup past

/-- After an accepted insertion the needle is inserted. -/
theorem inserted_of_accepted {d : OperationDispatcher (Geometry.Backend Float ρ)} {call : Call}
    (named : call.operation = txt "insert_manipulator") (accepted : Accepted it.setup d call) :
    (dispatch it.setup d call).2.service.backend.needleInserted = true := by
  have other : call.operation ≠ txt "checkpoint" := by
    rw [named]
    decide
  obtain ⟨answer, answered⟩ := accepted.answered other
  have invoked : it.setup.backend.invoke call.operation call.arguments d.service.backend =
      ((outcome (Geometry.insertManipulator it.geometry call.arguments) d.service.backend).1.map
        answerValue,
      (outcome (Geometry.insertManipulator it.geometry call.arguments) d.service.backend).2) := by
    rw [named, ← Geometry.invoke_insertManipulator]
    rfl
  rw [invoked] at answered
  obtain ⟨ok, after⟩ := Prod.mk.inj answered
  obtain ⟨given, returned, -⟩ := map_ok_iff.1 ok
  exact Geometry.inserted_of_insertion (Prod.ext returned after)

/-- **Step.**  While no retraction is pending, the flag stays true to the needle. -/
theorem truthful_step {past : Past (Geometry.Backend Float ρ)}
    {d : OperationDispatcher (Geometry.Backend Float ρ)} (call : Call)
    (truthful : Truthful it past d) :
    Truthful it ((d, call) :: past) (dispatch it.setup d call).2 := by
  intro settled flagged
  by_cases insertion : call.operation = txt "insert_manipulator" ∧ Accepted it.setup d call
  · obtain ⟨named, accepted⟩ := insertion
    exact ⟨inserted_of_accepted it named accepted, LastInserted.inserted named accepted⟩
  · have pending : ¬Withdrawn it.setup past := by
      intro withdrawn
      exact settled (withdrawn.cons fun named accepted => insertion ⟨named, accepted⟩)
    rw [dispatch_needleInserted d call insertion] at flagged
    obtain ⟨inserted, last⟩ := truthful pending flagged
    have kept : call.operation = txt "retract_manipulator" → ¬Reaches it.setup d call := by
      intro named reaches
      exact settled (Withdrawn.retracted named reaches)
    refine ⟨?_, last.cons fun named accepted => kept named accepted.reaches⟩
    rcases dispatch_backend it.setup d call with ⟨reaches, handles⟩ | ⟨-, same⟩
    · rcases handles_needle it handles with ⟨still, -⟩ | ⟨listed, ended⟩
      · rw [still.inserted]
        exact inserted
      · rw [ended]
        simp only [Geometry.needleOperations, List.mem_cons, List.not_mem_nil, or_false] at listed
        rcases listed with named | named | named
        · rw [named, Geometry.invoke_insertManipulator]
          obtain ⟨-, before | set⟩ :=
            Geometry.goes_insertManipulator it.geometry call.arguments d.service.backend
          · rw [before]
            exact inserted
          · exact set
        · rw [named, Geometry.invoke_moveManipulator]
          obtain ⟨-, before⟩ :=
            Geometry.goes_moveManipulator it.geometry call.arguments d.service.backend
          rw [before]
          exact inserted
        · exact absurd reaches (kept named)
    · rw [same]
      exact inserted

/-- **The manipulator moves only while inserted**, in every run in which no move is dispatched
while a retraction is pending. -/
theorem moves_only_inserted {d : OperationDispatcher (Geometry.Backend Float ρ)}
    (fresh : Fresh it.setup d) (calls : List Call)
    (disciplined : AlongPast it.setup (fun past _ call =>
      call.operation = txt "move_manipulator" → ¬Withdrawn it.setup past) [] d calls) :
    AlongPast it.setup (fun past d call =>
      call.operation = txt "move_manipulator" → Reaches it.setup d call →
        d.service.backend.needleInserted = true ∧ LastInserted it.setup past) [] d calls := by
  refine AlongPast.of_step (I := Truthful it) ?_ ?_ disciplined
  · intro past d call truthful settled
    refine ⟨?_, truthful_step it call truthful⟩
    rintro named ⟨a, d', next, invokes⟩
    obtain ⟨check, handled, passed⟩ := invokes.checked
    have allowed := passes handled passed
    have listed := allowed.operation
    rw [named] at listed
    have moved : next = .moved := by
      cases next with
      | moved => rfl
      | _ =>
          simp only [FollowUp.operations] at listed
          exact absurd listed (by decide)
    subst moved
    obtain ⟨-, ready⟩ := allowed
    rw [(record_frame invokes.requested).1] at ready
    exact truthful (settled named) (needleInserted_of_allowed ready)
  · obtain ⟨backend, runId, worldId, journal, -, built⟩ := fresh
    intro _ flagged
    unfold OperationDispatcher.new at built
    split at built
    · cases built
    · split at built
      · cases built
      · cases built
        cases flagged

end

/-! ## Poles -/

def insertion : Call := ⟨txt "1", txt "insert_manipulator", []⟩

def retraction : Call := ⟨txt "2", txt "retract_manipulator", []⟩

/-- A step of a micrometer. -/
def stepAside : Call :=
  ⟨txt "3", txt "move_manipulator",
    [(txt "position_um", .arr [.int 1, .int 0, .int 0]), (txt "relative", .bool true)]⟩

theorem exists_standing : ∃ d, standing = .ok d := by
  have stands : standing.toOption.isSome = true := by decide +kernel
  obtain ⟨d, found⟩ := Option.isSome_iff_exists.1 stands
  exact ⟨d, ok_of_toOption found⟩

/-- An insertion, and a move after it. -/
theorem inserted_move : ∃ d, Fresh stand.setup d ∧
    AlongPast stand.setup (fun past d call =>
      call.operation = txt "move_manipulator" → Reaches stand.setup d call →
        d.service.backend.needleInserted = true ∧ LastInserted stand.setup past) [] d
      [insertion, stepAside] := by
  obtain ⟨d, stands⟩ := exists_standing
  have fresh := fresh_of_standing stands
  refine ⟨d, fresh, moves_only_inserted stand fresh [insertion, stepAside] ⟨?_, ?_, trivial⟩⟩
  · intro named
    exact absurd named (by decide)
  · rintro - ⟨newer, retracted, older, past, named, -⟩
    have listed : retracted ∈ [(d, insertion)] := past ▸ List.mem_append_right _ List.mem_cons_self
    rw [List.mem_singleton.1 listed] at named
    have other : insertion.operation ≠ txt "retract_manipulator" := by decide
    exact other named

theorem timely_stand : Timely stand.setup := by
  intro n short
  have reading : stand.setup.clock n = (n : Int) + 1 := rfl
  rw [reading]
  omega

/-- The journal of the stand is new. -/
theorem journal_standing {d : OperationDispatcher (Geometry.Backend Float Unit)}
    (stands : standing = .ok d) : d.service.journal = ⟨txt "r", txt "w", by decide, []⟩ := by
  obtain ⟨backend, -, built⟩ := bind_ok_iff.1 stands
  simp only [OperationDispatcher.new] at built
  split at built
  · cases built
  · split at built
    · cases built
    · cases built
      rfl

theorem roomy_standing {d : OperationDispatcher (Geometry.Backend Float Unit)}
    (stands : standing = .ok d) :
    Roomy d.service.journal ∧ d.service.journal.events.length = 0 := by
  rw [journal_standing stands]
  exact ⟨⟨by decide, by decide, Journal.isHexDigest_genesis, by decide⟩, rfl⟩

section

variable {β : Type} {setup : Setup β}

/-- A call that is answered is accepted, whatever the journal holds. -/
theorem accepted_of_answered (clock : Timely setup) {d d' : OperationDispatcher β} {call : Call}
    (answers : answered setup d call = some d') {journal : Journal.EventJournal}
    (room : Roomy journal) (listable : journal.events.length + 1 < 2 ^ 62) :
    Accepted setup { d with service.journal := journal } call := by
  obtain ⟨check, handled, answers⟩ := Option.bind_eq_some_iff.1 answers
  obtain ⟨next, passed, answers⟩ := Option.bind_eq_some_iff.1 answers
  split at answers
  case h_1 => cases answers
  case h_2 result after performed =>
    split at answers
    case isFalse => cases answers
    case isTrue holds =>
      obtain ⟨other, asks, -⟩ := holds
      have asked' : asked setup d call result = some next := by
        unfold asked at asks ⊢
        split at asks
        case isFalse => cases asks
        case isTrue short => rw [if_pos short, handled, Option.bind_some, passed]
      obtain ⟨a, journal', invokes⟩ := invokes_of_asked clock asked' room listable
      exact ⟨a, _, next, result, _, invokes, perform_journal journal' other
        (uncounted_of_passed handled (ok_of_toOption passed) other) performed⟩

end

/-- **A move of a retracted needle.**  The flag of the insertion is still set. -/
theorem retracted_move : ∃ d, Fresh stand.setup d ∧
    ¬AlongPast stand.setup (fun past d call =>
      call.operation = txt "move_manipulator" → Reaches stand.setup d call →
        d.service.backend.needleInserted = true ∧ LastInserted stand.setup past) [] d
      [insertion, retraction, stepAside] := by
  have evaluates : (standing.toOption.any fun d =>
      (answered stand.setup d insertion).any fun d₁ =>
        (answered stand.setup d₁ retraction).any fun d₂ =>
          !d₂.service.backend.needleInserted &&
            (asked stand.setup d₂ stepAside .none).isSome) = true := by
    decide +kernel
  obtain ⟨d, stands⟩ := exists_standing
  rw [stands] at evaluates
  simp only [Except.toOption, Option.any_some] at evaluates
  obtain ⟨d₁, inserts, evaluates⟩ := (Option.any_eq_true _ _).1 evaluates
  obtain ⟨d₂, retracts, evaluates⟩ := (Option.any_eq_true _ _).1 evaluates
  obtain ⟨out, asks⟩ := Bool.and_eq_true_iff.1 evaluates
  obtain ⟨next, asks⟩ := Option.isSome_iff_exists.1 asks
  obtain ⟨room, new⟩ := roomy_standing stands
  obtain ⟨journal₁, first, room₁, length₁⟩ :=
    dispatch_of_answered timely_stand inserts room (by omega)
  obtain ⟨journal₂, second, room₂, length₂⟩ :=
    dispatch_of_answered timely_stand retracts room₁ (by omega)
  obtain ⟨a, journal₃, invokes⟩ := invokes_of_asked timely_stand asks room₂ (by omega)
  have left : (dispatch stand.setup (dispatch stand.setup d insertion).2 retraction).2 =
      { d₂ with service.journal := journal₂ } := by
    have same : { d with service.journal := d.service.journal } = d := rfl
    rw [← second, ← first, same]
  refine ⟨d, fresh_of_standing stands, ?_⟩
  rintro ⟨-, -, moved, -⟩
  rw [left] at moved
  have inserted : d₂.service.backend.needleInserted = true := (moved rfl ⟨a, _, next, invokes⟩).1
  rw [inserted] at out
  cases out

end InstrumentBench.Fibsem.Microscope
