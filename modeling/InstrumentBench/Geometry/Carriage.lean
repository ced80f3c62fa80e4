/-
# Geometry.Carriage -- what moves with the needle, and what never moves

In exact arithmetic.  A part keeps its identity (its name, role and purpose) for
as long as it is in the scene, and `Origin` says what an action does to it: it is
moved by the displacement of the needle or not at all, or it is new.

* `origin_step`: every part after an action has an origin;
* `Origin.moved`: a part of the scene before comes back moved by what it should;
* `carriage`: the needle mesh is the first one, moved as the needle was; the fixed
  parts and the depositions that are no needle joints stay where they are; the
  sample and the needle joints move with the needle while the sample is carried, and
  not otherwise; and a collision once noticed stays noticed.
-/
import InstrumentBench.Geometry.PartNames

namespace InstrumentBench.Geometry

set_option autoImplicit false
set_option linter.unusedSectionVars false

open InstrumentBench.Theory
open InstrumentBench.Theory.Stateful
open InstrumentBench.Fibsem (PyError)

section

variable {K ρ : Type} [Field K] [LinearOrder K] [IsStrictOrderedRing K] {setup : Setup K ρ}

/-! ## Moving -/

@[simp] theorem TriangleMesh.translate_zero (m : TriangleMesh K) : m.translate 0 = m := by
  simp [TriangleMesh.translate]

@[simp] theorem TriangleMesh.translate_translate (m : TriangleMesh K) (d e : Vec K) :
    (m.translate d).translate e = m.translate (d + e) := by
  simp [TriangleMesh.translate, add_assoc]

/-- How far a part moves, with the sample carried or not, when the needle moves. -/
def displacement (carried : Bool) (part : MeshPart K) (delta : Vec K) : Vec K :=
  if shouldMove carried part then delta else 0

@[simp] theorem displacement_zero (carried : Bool) (part : MeshPart K) :
    displacement carried part 0 = 0 := by
  unfold displacement
  split <;> rfl

/-! ## Where a part comes from -/

/-- Where a part of the scene after an action comes from. -/
inductive Origin (s t : Backend K ρ) (q : MeshPart K) : Prop
  | kept (p : MeshPart K) (listed : p ∈ s.parts) (same : q.identity = p.identity)
      (mesh : q.mesh = p.mesh.translate
        (displacement (carrySample t.parts) p (t.needle - s.needle)))
  | cut (p : MeshPart K) (listed : p ∈ s.parts) (role : p.role = .sample) (i : Nat)
      (same : q.identity = ⟨numbered (p.name ++ txt "_cut") i, .sample, none⟩)
  | deposited (purpose : Text) (n : Nat) (fresh : s.operationNumber < n)
      (same : q.identity = (Label.deposit purpose n).identity)

/-- A part that stayed while the needle did. -/
theorem Origin.stayed {s t : Backend K ρ} {q : MeshPart K} (needle : t.needle = s.needle)
    (listed : q ∈ s.parts) : Origin s t q := by
  refine .kept q listed rfl ?_
  rw [needle, sub_self, displacement_zero, TriangleMesh.translate_zero]

theorem carrySample_congr {parts parts' : List (MeshPart K)}
    (same : identities parts' = identities parts) : carrySample parts' = carrySample parts := by
  have reads (parts : List (MeshPart K)) : carrySample parts =
      (!(identities parts).any (fun i => i.name = txt "source_bridge") &&
        (identities parts).any fun i =>
          decide (i.role = .deposition) && decide (i.purpose = some (txt "needle_joint"))) := by
    simp only [carrySample, identities, List.any_map]
    rfl
  rw [reads, reads, same]

/-- A part of the scene after the needle moved. -/
theorem Carried.origin {delta : Vec K} {before after : List (MeshPart K)} {q : MeshPart K}
    (carried : Carried setup delta before after) (listed : q ∈ after) :
    ∃ p ∈ before, q.identity = p.identity ∧
      q.mesh = p.mesh.translate (displacement (carrySample after) p delta) := by
  rw [carrySample_congr carried.identities]
  obtain ⟨p, original, here⟩ := exists_of_forall₂ (mapM_ok_iff.1 carried) listed
  refine ⟨p, original, ?_⟩
  unfold displacement
  split at here
  case isTrue moves =>
      rw [if_pos moves]
      exact translatedPart_ok here
  case isFalse stays =>
      cases here
      rw [if_neg stays, TriangleMesh.translate_zero]
      exact ⟨rfl, rfl⟩

theorem mem_of_loop {parts left : List (MeshPart K)} {q : MeshPart K}
    {f : MeshPart K → Except PyError (List (MeshPart K))}
    (made : (parts.mapM f).map List.flatten = .ok left) (listed : q ∈ left) :
    ∃ p ∈ parts, ∃ pieces, f p = .ok pieces ∧ q ∈ pieces := by
  obtain ⟨all, loop, rfl⟩ := map_ok_iff.1 made
  obtain ⟨pieces, taken, inside⟩ := List.mem_flatten.1 listed
  obtain ⟨p, original, here⟩ := exists_of_forall₂ (mapM_ok_iff.1 loop) taken
  exact ⟨p, original, pieces, here, inside⟩

theorem mem_leaves {reached : MeshPart K → Bool} {cutter : Bounds K} {p q : MeshPart K}
    {pieces : List (MeshPart K)} (made : leaves reached cutter p = .ok pieces)
    (inside : q ∈ pieces) : q = p := by
  unfold leaves at made
  split at made
  · obtain ⟨box, -, made⟩ := bind_ok_iff.1 made
    cases made
    split at inside
    · cases inside
    · exact List.mem_singleton.1 inside
  · cases made
    exact List.mem_singleton.1 inside

theorem mem_cutPart {cutter : Bounds K} {p q : MeshPart K} {pieces : List (MeshPart K)}
    (made : cutPart setup cutter p = .ok pieces) (inside : q ∈ pieces) :
    q = p ∨ p.role = .sample ∧
      ∃ i, q.identity = ⟨numbered (p.name ++ txt "_cut") i, .sample, none⟩ := by
  unfold cutPart at made
  split at made
  case isTrue other =>
      cases made
      exact Or.inl (List.mem_singleton.1 inside)
  case isFalse role =>
  obtain ⟨box, -, made⟩ := bind_ok_iff.1 made
  split at made
  case isTrue outside =>
      cases made
      exact Or.inl (List.mem_singleton.1 inside)
  case isFalse overlapping =>
  obtain ⟨fragments, -, made⟩ := bind_ok_iff.1 made
  obtain ⟨piece, -, here⟩ := exists_of_forall₂ (mapM_ok_iff.1 made) inside
  exact Or.inr ⟨not_not.1 role, piece.2, fragment_ok here⟩

/-- What a cut leaves is a part as it was, or a fragment of a sample part. -/
theorem mem_cutParts_cases {purpose : Text} {cutter : Bounds K} {parts left : List (MeshPart K)}
    {q : MeshPart K} (made : cutParts setup purpose cutter parts = .ok left) (listed : q ∈ left) :
    q ∈ parts ∨ ∃ p ∈ parts, p.role = .sample ∧
      ∃ i, q.identity = ⟨numbered (p.name ++ txt "_cut") i, .sample, none⟩ := by
  have separated {reached : MeshPart K → Bool}
      (made : (parts.mapM (leaves reached cutter)).map List.flatten = .ok left) : q ∈ parts := by
    obtain ⟨p, original, pieces, here, inside⟩ := mem_of_loop made listed
    rw [mem_leaves here inside]
    exact original
  unfold cutParts at made
  split at made
  · exact Or.inl (separated made)
  · split at made
    · exact Or.inl (separated made)
    · split at made
      · obtain ⟨p, original, pieces, here, inside⟩ := mem_of_loop made listed
        rcases mem_cutPart here inside with rfl | piece
        · exact Or.inl original
        · exact Or.inr ⟨p, original, piece⟩
      · cases made
        exact Or.inl listed

theorem Effect.number {s t : Backend K ρ} {action : Action} (effect : Effect setup action s t) :
    s.operationNumber ≤ t.operationNumber := by
  cases effect with
  | quiet still => exact still.number
  | detached _ _ _ number => exact number
  | moved _ _ _ _ number => exact number
  | cut _ _ _ _ _ number => exact number
  | deposited _ _ _ _ _ _ _ _ _ fresh number => exact fresh.le.trans number

theorem Effect.collided {s t : Backend K ρ} {action : Action} (effect : Effect setup action s t) :
    s.collision = true → t.collision = true := by
  cases effect with
  | quiet still => exact still.collision
  | detached _ _ collision _ => exact collision
  | moved _ _ _ collision _ => exact collision
  | cut _ _ _ _ collision _ => exact collision
  | deposited _ _ _ _ _ _ _ _ collision _ _ => exact collision

/-- A step that moves the needle leaves the scene its parts; a shutdown has taken the
needle joints off. -/
theorem identities_moved {s : Backend K ρ} {action : Action}
    (moves : (step setup s action).needle ≠ s.needle) :
    identities (step setup s action).parts = identities s.parts ∨ action = .forceSafe ∧
      identities (step setup s action).parts = identities (detach s.parts) := by
  have effect := step_effect setup s action
  generalize step setup s action = t at effect moves
  cases effect with
  | quiet still => exact absurd still.needle moves
  | detached parts needle collision number => exact absurd needle moves
  | moved remaining kept carried collision number =>
      rcases kept with rfl | ⟨safe, rfl⟩
      · exact Or.inl carried.identities
      · exact Or.inr ⟨safe, carried.identities⟩
  | cut purpose cutter parts needle collision number => exact absurd needle moves
  | deposited purpose bounds part n deposits made parts needle collision fresh number =>
      exact absurd needle moves

/-- **Every part after an action has an origin.** -/
theorem origin_step {s : Backend K ρ} {action : Action} {q : MeshPart K}
    (listed : q ∈ (step setup s action).parts) : Origin s (step setup s action) q := by
  have effect := step_effect setup s action
  generalize step setup s action = t at effect listed
  cases effect with
  | quiet still =>
      rw [still.parts] at listed
      exact .stayed still.needle listed
  | detached parts needle collision number =>
      rw [parts] at listed
      exact .stayed needle ((detach_sublist s.parts).subset listed)
  | moved remaining kept carried collision number =>
      obtain ⟨p, original, same, mesh⟩ := carried.origin listed
      refine .kept p ?_ same mesh
      rcases kept with rfl | ⟨-, rfl⟩
      · exact original
      · exact (detach_sublist s.parts).subset original
  | cut purpose cutter parts needle collision number =>
      rcases mem_cutParts_cases parts listed with original | ⟨p, original, role, i, same⟩
      · exact .stayed needle original
      · exact .cut p original role i same
  | deposited purpose bounds part n deposits made parts needle collision fresh number =>
      rw [parts] at listed
      rcases List.mem_append.1 listed with original | new
      · exact .stayed needle original
      · cases List.mem_singleton.1 new
        exact .deposited purpose n fresh (deposited_ok made)

/-! ## One part, one identity -/

theorem Label.apart_symm {l m : Label} (apart : Label.Apart l m) : Label.Apart m l := by
  cases l with
  | sample p =>
      cases m with
      | sample q => exact ⟨apart.2, apart.1⟩
      | fixed name role => nofun
      | deposit purpose n => nofun
  | fixed name role => cases m <;> exact Ne.symm apart
  | deposit purpose n => cases m <;> exact Ne.symm apart

variable {asked : Text → Prop} {n : Nat}

/-- Two identities of a scene are apart or one. -/
theorem Named.eq_or_apart {scene : List Identity} (named : Named asked n scene) {i j : Identity}
    (listed : i ∈ scene) (listed' : j ∈ scene) {l m : Label} (label : Labelled i l)
    (label' : Labelled j m) : i = j ∨ l.Apart m := by
  by_cases same : i = j
  · exact Or.inl same
  · have symmetric : Std.Symm fun i j => ∀ l m, Labelled i l → Labelled j m → l.Apart m :=
      ⟨fun i j apart l m label label' => Label.apart_symm (apart m l label' label)⟩
    exact Or.inr (named.apart.forall listed listed' same l m label label')

/-- A scene has each identity once. -/
theorem Named.part_eq {parts : List (MeshPart K)} (named : Named asked n (identities parts))
    {p q : MeshPart K} (listed : p ∈ parts) (listed' : q ∈ parts)
    (same : p.identity = q.identity) : p = q := by
  have distinct : (identities parts).Nodup := by
    refine List.Pairwise.imp_of_mem ?_ named.apart
    rintro i j inside - apart rfl
    obtain ⟨l, label, -⟩ := named.labelled i inside
    exact (apart l l label label).ne rfl
  exact List.inj_on_of_nodup_map distinct listed listed' same

/-- **A part of the scene before an action is moved by it as it should be.** -/
theorem Origin.moved {s t : Backend K ρ} (named : Named asked s.operationNumber (identities s.parts))
    {p q : MeshPart K} (origin : Origin s t q) (listed : p ∈ s.parts)
    (same : q.identity = p.identity) :
    q.mesh = p.mesh.translate (displacement (carrySample t.parts) p (t.needle - s.needle)) := by
  have inside : p.identity ∈ identities s.parts := List.mem_map_of_mem listed
  cases origin with
  | kept r original same' mesh =>
      rw [named.part_eq original listed (same'.symm.trans same)] at mesh
      exact mesh
  | cut r original role i same' =>
      -- A fragment's path extends that of the part it was cut from, which is in the scene too.
      obtain ⟨l, label, -⟩ := named.labelled _ (List.mem_map_of_mem original)
      obtain ⟨path, rfl⟩ : ∃ path, l = .sample path := by
        have role' : l.role = .sample := (congrArg Identity.role label.same).symm.trans role
        cases l with
        | sample path => exact ⟨path, rfl⟩
        | fixed name r => exact absurd role' (fixture_plain _ label.known).1
        | deposit purpose n => cases role'
      have label' : Labelled p.identity (.sample (path ++ [i])) := by
        refine ⟨trivial, ?_⟩
        rw [← same, same', Label.identity, Label.name, spell_concat,
          show r.name = spell path from congrArg Identity.name label.same]
        rfl
      rcases named.eq_or_apart (List.mem_map_of_mem original) inside label label' with
        one | apart
      · rw [one] at label
        have longer := label.unique label'
        simp at longer
      · exact absurd (List.prefix_append path [i]) apart.1
  | deposited purpose k fresh same' =>
      obtain ⟨l, label, below⟩ := named.labelled _ inside
      cases label.unique (m := .deposit purpose k) ⟨trivial, same.symm.trans same'⟩
      exact absurd fresh (not_lt.2 below.2)

/-! ## Runs -/

/-- The fixed parts, and the depositions that are no needle joints. -/
def Settled (i : Identity) : Prop :=
  i.role = .source ∨ i.role = .target ∨ i.role = .coupon ∨
    i.role = .deposition ∧ i.purpose ≠ some (txt "needle_joint")

theorem displacement_settled {part : MeshPart K} (settled : Settled part.identity)
    (carried : Bool) (delta : Vec K) : displacement carried part delta = 0 := by
  have stays : shouldMove carried part = false := by
    rcases settled with role | role | role | ⟨role, other⟩
    all_goals
      replace role : part.role = _ := role
      simp [shouldMove, hasPurpose, role]
    exact fun _ => other
  rw [displacement, stays]
  rfl

/-- Of the settled parts after some actions, those from before are where they were. -/
theorem settled_kept {s : Backend K ρ} (later : List Action) {q : MeshPart K}
    (listed : q ∈ (run setup s later).parts) (settled : Settled q.identity) :
    (∃ p ∈ s.parts, q.identity = p.identity ∧ q.mesh = p.mesh) ∨
      ∃ purpose k, s.operationNumber < k ∧ q.identity = (Label.deposit purpose k).identity := by
  induction later generalizing s with
  | nil => exact Or.inl ⟨q, listed, rfl, rfl⟩
  | cons action rest ih =>
      rcases ih listed with ⟨r, inside, same, mesh⟩ | ⟨purpose, k, fresh, same⟩
      · rw [same] at settled
        cases origin_step inside with
        | kept p original same' mesh' =>
            rw [same'] at settled
            rw [displacement_settled settled, TriangleMesh.translate_zero] at mesh'
            exact Or.inl ⟨p, original, same.trans same', mesh.trans mesh'⟩
        | cut p original role i same' =>
            rw [same'] at settled
            simp [Settled] at settled
        | deposited purpose k fresh same' =>
            exact Or.inr ⟨purpose, k, fresh, same.trans same'⟩
      · refine Or.inr ⟨purpose, k, lt_of_le_of_lt ?_ fresh, same⟩
        exact (step_effect setup s action).number

/-- The needle is one part. -/
theorem Named.needle_identity {parts : List (MeshPart K)} (named : Named asked n (identities parts))
    {p : MeshPart K} (listed : p ∈ parts) (role : p.role = .needle) :
    p.identity = (Label.fixed (txt "needle") .needle).identity := by
  have only : ∀ f ∈ FIXTURES, f.2 = .needle → f.1 = txt "needle" := by decide
  obtain ⟨l, label, -⟩ := named.labelled _ (List.mem_map_of_mem listed)
  have role' : l.role = .needle := (congrArg Identity.role label.same).symm.trans role
  rw [label.same]
  cases l with
  | fixed name r =>
      cases (show r = .needle from role')
      rw [show name = txt "needle" from only _ label.known rfl]
  | sample path => cases role'
  | deposit purpose k => cases role'

/-- The needle after some actions is the needle before, moved as far as its pose. -/
theorem needle_run {s : Backend K ρ} (actions : List Action) {q : MeshPart K}
    (listed : q ∈ (run setup s actions).parts) (role : q.role = .needle) :
    ∃ p ∈ s.parts, p.role = .needle ∧
      q.mesh = p.mesh.translate ((run setup s actions).needle - s.needle) := by
  induction actions generalizing s with
  | nil => exact ⟨q, listed, role, by simp [run]⟩
  | cons action rest ih =>
      obtain ⟨r, inside, role', mesh⟩ := ih listed
      cases origin_step inside with
      | kept p original same mesh' =>
          have role'' : p.role = .needle := (congrArg Identity.role same).symm.trans role'
          have moves : shouldMove (carrySample (step setup s action).parts) p = true := by
            simp [shouldMove, role'']
          rw [displacement, if_pos moves] at mesh'
          refine ⟨p, original, role'', ?_⟩
          show q.mesh = p.mesh.translate
            ((run setup (step setup s action) rest).needle - s.needle)
          rw [mesh, mesh', TriangleMesh.translate_translate, add_comm, sub_add_sub_cancel]
      | cut p original role'' i same =>
          have other : r.role = .sample := congrArg Identity.role same
          rw [role'] at other
          cases other
      | deposited purpose k fresh same =>
          have other : r.role = .deposition := congrArg Identity.role same
          rw [role'] at other
          cases other

theorem collided_run {s : Backend K ρ} (collided : s.collision = true) (actions : List Action) :
    (run setup s actions).collision = true := by
  induction actions generalizing s with
  | nil => exact collided
  | cons action rest ih => exact ih ((step_effect setup s action).collided collided)

/-- **The needle assembly moves rigidly with the needle.**  In every reachable state
the needle is one mesh, the first one moved as far as the needle's pose.  From there
on the source, the target, the coupon and every deposition that is no needle joint
keep their meshes whatever is done.  One action further, the sample parts and the
needle joints that remain are moved as far as the needle's pose where the sample is
carried when the needle moves, and are not moved where it is not; a shutdown takes the
needle joints off before it moves the needle, so what is carried is read off the parts
it leaves, and beside these no part is lost or gained where the needle moves.  A
collision noticed once is never forgotten. -/
theorem carriage {b : Backend K ρ} {runtime : ρ} (made : Backend.new setup runtime = .ok b)
    (actions : List Action) :
    let s := run setup b actions
    ((∃ p ∈ s.parts, p.role = .needle) ∧
        ∀ p₀ ∈ b.parts, ∀ p ∈ s.parts, p₀.role = .needle → p.role = .needle →
          p.mesh = p₀.mesh.translate (s.needle - b.needle)) ∧
      (∀ later, ∀ p ∈ s.parts, ∀ q ∈ (run setup s later).parts, q.identity = p.identity →
        Settled p.identity → q.mesh = p.mesh) ∧
      (∀ action, ∀ p ∈ s.parts, ∀ q ∈ (step setup s action).parts, q.identity = p.identity →
        p.role = .sample ∨ hasPurpose "needle_joint" p = true →
          q.mesh = p.mesh.translate
            (if carrySample (step setup s action).parts then
              (step setup s action).needle - s.needle else 0)) ∧
      (∀ action, (step setup s action).needle ≠ s.needle →
        identities (step setup s action).parts = identities s.parts ∨ action = .forceSafe ∧
          identities (step setup s action).parts = identities (detach s.parts)) ∧
      (s.collision = true → ∀ later, (run setup s later).collision = true) := by
  intro s
  have start : Named (fun _ => True) b.operationNumber (identities b.parts) := Named.new made
  have named : Named (fun _ => True) s.operationNumber (identities s.parts) :=
    start.run setup fun _ _ _ _ => trivial
  refine ⟨⟨?_, ?_⟩, ?_, ?_, fun _ => identities_moved, ?_⟩
  · obtain ⟨p, listed, same⟩ := List.mem_map.1 (needle_listed made actions)
    exact ⟨p, listed, congrArg Identity.role same⟩
  · intro p₀ first p listed role₀ role
    obtain ⟨r, original, role', mesh⟩ := needle_run actions listed role
    have one : r = p₀ := start.part_eq original first
      ((start.needle_identity original role').trans (start.needle_identity first role₀).symm)
    rw [← one]
    exact mesh
  · intro later p listed q listed' same settled
    rw [← same] at settled
    rcases settled_kept later listed' settled with ⟨r, original, same', mesh⟩ | ⟨t, k, fresh, new⟩
    · rw [named.part_eq listed original (same.symm.trans same')]
      exact mesh
    · obtain ⟨l, label, below⟩ := named.labelled _ (List.mem_map_of_mem listed)
      cases label.unique (m := .deposit t k) ⟨trivial, same.symm.trans new⟩
      exact absurd fresh (not_lt.2 below.2)
  · intro action p listed q listed' same hangs
    rw [(origin_step listed').moved named listed same]
    congr 1
    have unneedled : p.role ≠ .needle := by
      rcases hangs with role | joint
      · rw [role]
        nofun
      · intro role
        simp [hasPurpose, role] at joint
    have moves (carried : Bool) : shouldMove carried p = carried := by
      rcases hangs with role | joint
      · simp [shouldMove, role]
      · simp [shouldMove, unneedled, joint]
    rw [displacement, moves]
  · exact collided_run

/-! ## A lift-out in exact numbers -/

/-- Exact numbers where every number of a request is an integer and nothing is rotated. -/
def integral : Numerics ℚ where
  float
    | .int i => .ok i
    | _ => .error (.typeError (txt "float() argument must be a string or a real number"))
  isFinite _ := true
  radians degrees := degrees
  cos _ := 1
  sin _ := 0

/-- The lift takes every sample part along. -/
theorem carriage_lift : ∃ b : Backend ℚ Unit, Backend.new (bench integral) () = .ok b ∧
    ∀ p ∈ (run (bench integral) b prepared).parts,
      ∀ q ∈ (step (bench integral) (run (bench integral) b prepared) lift).parts,
        q.identity = p.identity → p.role = .sample →
          q.mesh = p.mesh.translate ![0, 0, 30] := by
  obtain ⟨b, made, carried, delta⟩ := exists_of_run (bench integral) () (fun b =>
    carrySample (step (bench integral) (run (bench integral) b prepared) lift).parts = true ∧
      (step (bench integral) (run (bench integral) b prepared) lift).needle -
        (run (bench integral) b prepared).needle = ![0, 0, 30]) (by decide +kernel)
  refine ⟨b, made, ?_⟩
  intro p listed q listed' same role
  rw [(carriage made prepared).2.2.1 lift p listed q listed' same (Or.inl role), if_pos carried,
    delta]

end

end InstrumentBench.Geometry
