/-
# Geometry.Transitions -- what one action does to the scene

Every action of a backend leaves the parts and the needle alone, or moves the
needle with what hangs on it, or takes parts off, cuts them or adds one.
`Effect` lists these cases with what each says about the parts, the needle, the
collision flag and the operation number, and `step_effect` is that every action
has one of them, also where it raises halfway.
-/
import InstrumentBench.Geometry.Backend

namespace InstrumentBench.Geometry

set_option autoImplicit false
set_option linter.unusedSectionVars false

open InstrumentBench.Theory
open InstrumentBench.Theory.Stateful
open InstrumentBench.Fibsem (PyError)

section

variable {K ρ : Type} [Add K] [Sub K] [Neg K] [Mul K] [Div K] [LT K] [DecidableLT K] [LE K]
  [DecidableLE K] [OfScientific K]

/-- The scene is as it was, except that a collision may have been noticed and a
pattern begun. -/
structure Quiet (s t : Backend K ρ) : Prop where
  parts : t.parts = s.parts
  needle : t.needle = s.needle
  collision : s.collision = true → t.collision = true
  number : s.operationNumber ≤ t.operationNumber

theorem Quiet.trans {s t u : Backend K ρ} (first : Quiet s t) (rest : Quiet t u) : Quiet s u where
  parts := rest.parts.trans first.parts
  needle := rest.needle.trans first.needle
  collision := rest.collision ∘ first.collision
  number := first.number.trans rest.number

instance : Std.Refl (@Quiet K ρ _) := ⟨fun _ => ⟨rfl, rfl, id, le_rfl⟩⟩

instance : IsTrans (Backend K ρ) Quiet := ⟨fun _ _ _ => Quiet.trans⟩

/-- The parts after the needle moved, with what hangs on it. -/
def Carried (setup : Setup K ρ) (delta : Vec K) (before after : List (MeshPart K)) : Prop :=
  (before.mapM fun part =>
    if shouldMove (carrySample before) part then translatedPart setup delta part
    else .ok part) = .ok after

/-- The action asks for a deposition of the purpose. -/
def Deposits (action : Action) (purpose : Text) : Prop :=
  ∃ arguments pattern, action = .invoke (txt "run_deposition") arguments ∧
    patternOf arguments = .ok (pattern, purpose)

/-- What became of the scene. -/
inductive Effect (setup : Setup K ρ) (action : Action) (s t : Backend K ρ) : Prop
  | quiet (still : Quiet s t)
  | detached (parts : t.parts = detach s.parts) (needle : t.needle = s.needle)
      (collision : s.collision = true → t.collision = true)
      (number : s.operationNumber ≤ t.operationNumber)
  | moved (remaining : List (MeshPart K))
      (kept : remaining = s.parts ∨ action = .forceSafe ∧ remaining = detach s.parts)
      (carried : Carried setup (t.needle - s.needle) remaining t.parts)
      (collision : s.collision = true → t.collision = true)
      (number : s.operationNumber ≤ t.operationNumber)
  | cut (purpose : Text) (cutter : Bounds K)
      (parts : cutParts setup purpose cutter s.parts = .ok t.parts) (needle : t.needle = s.needle)
      (collision : s.collision = true → t.collision = true)
      (number : s.operationNumber ≤ t.operationNumber)
  | deposited (purpose : Text) (bounds : Bounds K) (part : MeshPart K) (n : Nat)
      (asked : Deposits action purpose) (made : deposited setup purpose n bounds = .ok part)
      (parts : t.parts = s.parts ++ [part]) (needle : t.needle = s.needle)
      (collision : s.collision = true → t.collision = true)
      (fresh : s.operationNumber < n) (number : n ≤ t.operationNumber)

variable {setup : Setup K ρ} {action : Action}

/-- What is quiet after an effect is part of it. -/
theorem Effect.then_quiet {s t u : Backend K ρ} (effect : Effect setup action s t)
    (still : Quiet t u) : Effect setup action s u := by
  obtain ⟨parts, needle, collision, number⟩ := still
  cases effect with
  | quiet first => exact .quiet (first.trans ⟨parts, needle, collision, number⟩)
  | detached p n c k =>
      exact .detached (parts.trans p) (needle.trans n) (collision ∘ c) (k.trans number)
  | moved remaining kept carried c k =>
      refine .moved remaining kept ?_ (collision ∘ c) (k.trans number)
      rw [needle, parts]
      exact carried
  | cut purpose cutter p n c k =>
      refine .cut purpose cutter ?_ (needle.trans n) (collision ∘ c) (k.trans number)
      rw [parts]
      exact p
  | deposited purpose bounds part n asked made p nd c fresh k =>
      exact .deposited purpose bounds part n asked made (parts.trans p) (needle.trans nd)
        (collision ∘ c) fresh (k.trans number)

/-- What is quiet before an effect is part of it. -/
theorem Quiet.then_effect {s t u : Backend K ρ} (still : Quiet s t)
    (effect : Effect setup action t u) : Effect setup action s u := by
  obtain ⟨parts, needle, collision, number⟩ := still
  cases effect with
  | quiet rest => exact .quiet (Quiet.trans ⟨parts, needle, collision, number⟩ rest)
  | detached p n c k =>
      exact .detached (parts ▸ p) (n.trans needle) (c ∘ collision) (number.trans k)
  | moved remaining kept carried c k =>
      exact .moved remaining (parts ▸ kept) (needle ▸ carried) (c ∘ collision) (number.trans k)
  | cut purpose cutter p n c k =>
      exact .cut purpose cutter (parts ▸ p) (n.trans needle) (c ∘ collision) (number.trans k)
  | deposited purpose bounds part n asked made p nd c fresh k =>
      exact .deposited purpose bounds part n asked made (parts ▸ p) (nd.trans needle)
        (c ∘ collision) (number.trans_lt fresh) k

/-! ## Methods -/

section

variable {α β : Type}

theorem quiet_call (m : ρ → Except PyError α × ρ) : Leads Quiet (call m : Method K ρ α) :=
  fun _ => ⟨rfl, rfl, id, le_rfl⟩

theorem quiet_synchronize : Leads Quiet (synchronize setup) :=
  leads_get_bind fun s => quiet_call _ s

theorem quiet_settle (position : Vec K) (inserted : Bool) :
    Leads Quiet (settle setup position inserted) :=
  (quiet_call _).seq fun _ => quiet_synchronize.seq fun _ => leads_get_bind fun s =>
    leads_pure (R := Quiet) _ s

theorem quiet_finishPattern : Leads Quiet (finishPattern setup) :=
  quiet_synchronize.seq fun _ => leads_modify fun _ => ⟨rfl, rfl, id, le_rfl⟩

theorem quiet_receipt : Leads Quiet (receipt : Method K ρ (Answer K)) :=
  leads_get_bind fun s => leads_pure (R := Quiet) _ s

/-- A pattern that began has a number of its own. -/
def Begun (s t : Backend K ρ) : Prop := Quiet s t ∧ s.operationNumber < t.operationNumber

theorem begun_beginPattern (operation : String) (purpose : Text) (pattern : Arguments) :
    Leads Begun (beginPattern setup operation purpose pattern) := by
  refine Leads.bind (R := Begun) (S := Quiet) (leads_modify ?_) ?_ (fun _ _ h => h) ?_
  · intro s
    exact ⟨⟨rfl, rfl, id, Nat.le_succ _⟩, Nat.lt_succ_self _⟩
  · intro _
    exact leads_lift_bind fun _ _ => quiet_call _
  · rintro s t u ⟨still, more⟩ rest
    exact ⟨still.trans rest, more.trans_le rest.number⟩

theorem quiet_recordChange (operation : ChangeKind) (purpose : Text) (bounds : Bounds K)
    (volume : K) : Leads Quiet (recordChange setup operation purpose bounds volume :
      Method K ρ Unit) :=
  leads_lift_bind fun _ _ => leads_modify fun _ => ⟨rfl, rfl, id, le_rfl⟩

/-- An effect composed of a quiet beginning and another. -/
theorem effect_after_quiet {m : Method K ρ α} {f : α → Method K ρ β}
    (first : Leads Quiet m) (rest : ∀ a, Leads (Effect setup action) (f a)) :
    Leads (Effect setup action) (m >>= f) :=
  first.bind rest (fun _ _ h => .quiet h) fun _ _ _ h k => h.then_effect k

theorem effect_before_quiet {m : Method K ρ α} {f : α → Method K ρ β}
    (first : Leads (Effect setup action) m) (rest : ∀ a, Leads Quiet (f a)) :
    Leads (Effect setup action) (m >>= f) :=
  first.bind rest (fun _ _ h => h) fun _ _ _ h k => h.then_quiet k

theorem quiet_effect {m : Method K ρ α} (still : Leads Quiet m) :
    Leads (Effect setup action) m := still.imp fun _ _ h => .quiet h

instance : Std.Refl (Effect setup action) := ⟨fun s => .quiet (Std.Refl.refl s)⟩

/-- The needle moved with what hangs on it, or nothing did. -/
def Moves (setup : Setup K ρ) (s t : Backend K ρ) : Prop :=
  Quiet s t ∨
    Carried setup (t.needle - s.needle) s.parts t.parts ∧
      (s.collision = true → t.collision = true) ∧ s.operationNumber ≤ t.operationNumber

theorem Moves.then_quiet {s t u : Backend K ρ} (moves : Moves setup s t) (still : Quiet t u) :
    Moves setup s u := by
  rcases moves with first | ⟨carried, collision, number⟩
  · exact Or.inl (first.trans still)
  · refine Or.inr ⟨?_, still.collision ∘ collision, number.trans still.number⟩
    rw [still.needle, still.parts]
    exact carried

theorem Moves.effect {s t : Backend K ρ} (moves : Moves setup s t) : Effect setup action s t := by
  rcases moves with still | ⟨carried, collision, number⟩
  · exact .quiet still
  · exact .moved s.parts (Or.inl rfl) carried collision number

/-- **The needle moves with what hangs on it**, or nothing moves. -/
theorem moves_moveNeedleGeometry (position : Vec K) :
    Leads (Moves setup) (moveNeedleGeometry setup position) := by
  refine leads_get_bind fun s => ?_
  show Moves setup s (outcome _ s).2
  rw [outcome_bind]
  dsimp only [outcome_modify]
  rw [outcome_bind, outcome_lift]
  have noticed (b : Bool) (h : s.collision = true) : (s.collision || b) = true := by simp [h]
  split
  case h_1 moved t same =>
      obtain ⟨carried, rfl⟩ := Prod.mk.inj same
      exact Or.inr ⟨carried, noticed _, le_rfl⟩
  case h_2 e t same =>
      obtain ⟨-, rfl⟩ := Prod.mk.inj same
      exact Or.inl ⟨rfl, rfl, noticed _, le_rfl⟩

/-- A needle operation: it moves the needle, and is quiet from then on. -/
theorem moves_needle (position : Vec K) {f : Unit → Method K ρ α}
    (rest : ∀ a, Leads Quiet (f a)) :
    Leads (Moves setup) (moveNeedleGeometry setup position >>= f) :=
  (moves_moveNeedleGeometry position).bind rest (fun _ _ h => h) fun _ _ _ h k => h.then_quiet k

theorem effect_insertManipulator (arguments : Arguments) :
    Leads (Effect setup action) (insertManipulator setup arguments) := by
  refine leads_get_bind fun s => ?_
  refine leads_lift_bind (fun position _ => ?_) s
  refine effect_after_quiet (leads_modify fun _ => ⟨rfl, rfl, id, le_rfl⟩) fun _ => ?_
  exact (moves_needle position fun _ => quiet_settle position true).imp fun _ _ h => h.effect

theorem effect_moveManipulator (arguments : Arguments) :
    Leads (Effect setup action) (moveManipulator setup arguments) := by
  refine leads_get_bind fun s => ?_
  refine leads_lift_bind (fun position _ => ?_) s
  exact (moves_needle position fun _ => quiet_settle position s.needleInserted).imp fun _ _ h => h.effect

theorem effect_retractManipulator :
    Leads (Effect setup action) (retractManipulator setup) := by
  refine leads_lift_bind fun position _ => ?_
  refine (moves_needle position fun _ => ?_).imp fun _ _ h => h.effect
  exact (leads_modify fun _ => ⟨rfl, rfl, id, le_rfl⟩).seq fun _ => quiet_settle position false

/-- The parts that a cut leaves take the place of those before. -/
theorem effect_cut {s : Backend K ρ} {purpose : Text} {cutter : Bounds K}
    {left : List (MeshPart K)} (made : cutParts setup purpose cutter s.parts = .ok left) :
    Effect setup action s { s with parts := left } :=
  .cut purpose cutter made rfl id le_rfl

theorem effect_runCut (arguments : Arguments) :
    Leads (Effect setup action) (runCut setup arguments) := by
  refine leads_lift_bind fun request _ => ?_
  refine effect_after_quiet ((begun_beginPattern _ _ _).imp fun _ _ h => h.1) fun _ => ?_
  refine leads_lift_bind fun bounds _ => ?_
  refine effect_after_quiet (quiet_recordChange _ _ _ _) fun _ => ?_
  refine leads_get_bind fun s => ?_
  refine (?_ : Effect setup action s _)
  rw [after, outcome_bind, outcome_lift]
  cases left : cutParts setup request.2 bounds s.parts with
  | error e => exact .quiet (Std.Refl.refl s)
  | ok parts =>
      have rest : Leads Quiet (do
          finishPattern setup
          receipt : Method K ρ (Answer K)) := quiet_finishPattern.seq fun _ => quiet_receipt
      exact (effect_cut left).then_quiet (rest _)

/-- What a deposition does once its pattern has begun under a number. -/
theorem effect_runDeposition {arguments : Arguments}
    (named : action = .invoke (txt "run_deposition") arguments) :
    Leads (Effect setup action) (runDeposition setup arguments) := by
  refine leads_lift_bind fun request asked => ?_
  refine Leads.bind (S := fun s t => ∀ r, r.operationNumber < s.operationNumber → Quiet r s →
      Effect setup action r t) (begun_beginPattern _ _ _) ?_ (fun _ _ h => .quiet h.1)
      fun r s t begun rest => rest r begun.2 begun.1
  intro _ s r less still
  show Effect setup action r (outcome _ s).2
  rw [outcome_bind, outcome_lift]
  cases patternBounds setup request.1 with
  | error e => exact .quiet still
  | ok bounds =>
      dsimp only
      rw [outcome_bind]
      have recorded : Quiet s (outcome (recordChange setup .deposition request.2 bounds
          bounds.volume) s).2 := quiet_recordChange .deposition request.2 bounds bounds.volume s
      generalize outcome (recordChange setup .deposition request.2 bounds bounds.volume) s = ended
        at recorded ⊢
      rcases ended with ⟨result, t⟩
      cases result with
      | error e => exact .quiet (still.trans recorded)
      | ok _ =>
          dsimp only
          rw [outcome_bind, outcome_get]
          dsimp only
          rw [outcome_bind, outcome_lift]
          cases made : deposited setup request.2 t.operationNumber bounds with
          | error e => exact .quiet (still.trans recorded)
          | ok part =>
              have rest : Leads Quiet (do
                  finishPattern setup
                  receipt : Method K ρ (Answer K)) :=
                quiet_finishPattern.seq fun _ => quiet_receipt
              have both := still.trans recorded
              refine Effect.then_quiet (t := { t with parts := t.parts ++ [part] }) ?_ (rest _)
              refine .deposited request.2 bounds part t.operationNumber ?_ made ?_ both.needle
                both.collision (less.trans_le recorded.number) le_rfl
              · exact ⟨arguments, request.1, named, asked⟩
              · show t.parts ++ [part] = r.parts ++ [part]
                rw [both.parts]

theorem quiet_cancel : Leads Quiet (cancel setup) :=
  (quiet_call _).seq fun _ => (quiet_call _).seq fun _ => (quiet_call _).seq fun _ =>
    leads_modify fun _ => ⟨rfl, rfl, id, le_rfl⟩

/-- The needle joints are taken off before the needle withdraws. -/
theorem effect_withdraw (safe : action = .forceSafe) :
    Leads (Effect setup action) (withdraw setup) := by
  intro s
  show Effect setup action s (outcome _ s).2
  rw [withdraw, outcome_bind, outcome_modify]
  dsimp only
  rw [outcome_bind, outcome_lift]
  cases setup.scenario.worldPosition (txt "needle") with
  | error e => exact .detached rfl rfl id le_rfl
  | ok position =>
      have rest : Leads Quiet (do
          modify fun b => { b with needleInserted := false }
          let b ← get
          call (setup.runtime.moveManipulator b.needle false)
          synchronize setup : Method K ρ Unit) :=
        (leads_modify fun _ => ⟨rfl, rfl, id, le_rfl⟩).seq fun _ => leads_get_bind fun s =>
          (quiet_call _).seq (fun _ => quiet_synchronize) s
      have moves : Moves setup { s with parts := detach s.parts } _ :=
        moves_needle position (fun _ => rest) { s with parts := detach s.parts }
      rcases moves with still | ⟨carried, collision, number⟩
      · exact .detached still.parts still.needle still.collision still.number
      · exact .moved (detach s.parts) (Or.inr ⟨safe, rfl⟩) carried collision number

theorem effect_forceSafe (safe : action = .forceSafe) :
    Leads (Effect setup action) (forceSafe setup) := by
  refine leads_get_bind fun s => ?_
  have finished : Leads Quiet (modify fun b => { b with activeOperation := none } :
      Method K ρ Unit) := leads_modify fun _ => ⟨rfl, rfl, id, le_rfl⟩
  cases inserted : s.needleInserted with
  | false => exact effect_before_quiet (quiet_effect (leads_pure ())) (fun _ => finished) s
  | true => exact effect_before_quiet (effect_withdraw safe) (fun _ => finished) s

theorem quiet_acquireImage (arguments : Arguments) :
    Leads Quiet (acquireImage setup arguments) :=
  leads_lift_bind fun _ _ => (quiet_call _).seq fun _ => leads_lift _

theorem quiet_moveStage (arguments : Arguments) : Leads Quiet (moveStage setup arguments) :=
  leads_get_bind fun s => leads_lift_bind (fun _ _ =>
    (leads_modify fun _ => ⟨rfl, rfl, id, le_rfl⟩).seq fun _ => (quiet_call _).seq fun _ =>
      leads_pure (R := Quiet) _) s

theorem quiet_getStagePosition : Leads Quiet (getStagePosition : Method K ρ (Answer K)) :=
  leads_get_bind fun s => leads_pure (R := Quiet) _ s

theorem quiet_getManipulatorState :
    Leads Quiet (getManipulatorState : Method K ρ (Answer K)) :=
  leads_get_bind fun s => leads_pure (R := Quiet) _ s

theorem quiet_stop (kind : String) : Leads Quiet (stop setup kind) :=
  (quiet_call _).seq fun _ => leads_pure _

theorem quiet_patternStatus (arguments : Arguments) :
    Leads Quiet (patternStatus arguments : Method K ρ (Answer K)) :=
  leads_lift_bind fun _ _ => leads_get_bind fun s => leads_pure (R := Quiet) _ s

theorem quiet_stopPattern (arguments : Arguments) : Leads Quiet (stopPattern setup arguments) :=
  (quiet_call _).seq fun _ => (leads_modify fun _ => ⟨rfl, rfl, id, le_rfl⟩).seq fun _ =>
    leads_lift_bind fun _ _ => leads_pure _

theorem effect_invoke (operation : Text) (arguments : Arguments) :
    Leads (Effect setup (.invoke operation arguments)) (invoke setup operation arguments) := by
  unfold invoke
  refine leads_ite (fun _ => quiet_effect ((quiet_call _).seq fun _ => leads_pure _)) fun _ => ?_
  refine leads_ite (fun _ => leads_pure _) fun _ => ?_
  refine leads_ite (fun _ => quiet_effect (quiet_acquireImage arguments)) fun _ => ?_
  refine leads_ite (fun _ => quiet_effect quiet_getStagePosition) fun _ => ?_
  refine leads_ite (fun _ => quiet_effect (quiet_moveStage arguments)) fun _ => ?_
  refine leads_ite (fun _ => quiet_effect (quiet_stop "stage")) fun _ => ?_
  refine leads_ite (fun _ => quiet_effect quiet_getManipulatorState) fun _ => ?_
  refine leads_ite (fun _ => effect_insertManipulator arguments) fun _ => ?_
  refine leads_ite (fun _ => effect_moveManipulator arguments) fun _ => ?_
  refine leads_ite (fun _ => effect_retractManipulator) fun _ => ?_
  refine leads_ite (fun _ => quiet_effect (quiet_stop "manipulator")) fun _ => ?_
  refine leads_ite (fun _ => effect_runCut arguments) fun _ => ?_
  refine leads_ite (fun named => effect_runDeposition (by rw [named])) fun _ => ?_
  refine leads_ite (fun _ => quiet_effect (quiet_patternStatus arguments)) fun _ => ?_
  exact leads_ite (fun _ => quiet_effect (quiet_stopPattern arguments)) fun _ => leads_lift _

end

/-- **Every action has one of these effects**, wherever it raises. -/
theorem step_effect (setup : Setup K ρ) (s : Backend K ρ) (action : Action) :
    Effect setup action s (step setup s action) := by
  refine (?_ : Leads (Effect setup action) (perform setup action)) s
  cases action with
  | invoke operation arguments =>
      exact effect_before_quiet (effect_invoke operation arguments) fun _ => leads_pure _
  | semanticState => exact leads_pure _
  | motionIsSafe => exact leads_pure _
  | freezeSnapshot stepId => exact leads_pure _
  | acquireCheckpointImages =>
      exact quiet_effect ((quiet_call _).seq fun _ => (quiet_call _).seq fun _ => leads_pure _)
  | cancel => exact quiet_effect quiet_cancel
  | forceSafe => exact effect_forceSafe rfl
  | close => exact quiet_effect (quiet_call _)

end

end InstrumentBench.Geometry
