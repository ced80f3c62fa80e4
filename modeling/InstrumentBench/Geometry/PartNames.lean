/-
# Geometry.PartNames -- the names of the parts stay distinct

A part is named once, by one of two generators: a cut appends `_cut_` and an index
to the name of the part it cuts, a deposition is its purpose and the number of its
operation.  `Label` is what a name spells: one of the fixed parts, a path of cuts
from the sample, or a purpose with a number.

* `Label.eq_of_name`: parts of one role with one name have one label;
* `Label.name_ne`: labels that are apart have different names, unless a deposition's
  purpose is itself the name of a sample part followed by `_cut`;
* `Named.step`: every action keeps the labels apart: a piece of a part extends the
  part's path, and no path in the scene is a prefix of another;
* `part_names_unique`: so the names are distinct in every reachable state.

The exception is real: `fragment_purpose_collides`.  No purpose a dispatcher lets
through is of that form (`not_fragmentPurpose`).
-/
import InstrumentBench.Geometry.Transitions
import InstrumentBench.Fibsem.Microscope

namespace InstrumentBench.Geometry

set_option autoImplicit false
set_option linter.unusedSectionVars false

open InstrumentBench.Theory
open InstrumentBench.Theory.Stateful
open InstrumentBench.Fibsem (PyError)

/-! ## Numerals at the end of a text -/

def IsDigit (c : CodePoint) : Prop := 48 ≤ c.val ∧ c.val ≤ 57

instance (c : CodePoint) : Decidable (IsDigit c) := inferInstanceAs (Decidable (_ ∧ _))

theorem isDigit_decimal (n : Nat) : ∀ c ∈ decimal n, IsDigit c := by
  intro c listed
  obtain ⟨d, -, rfl⟩ := List.mem_map.1 listed
  have := d.isLt
  exact ⟨Nat.le_add_right _ _, by show 48 + d.val ≤ 57; omega⟩

theorem decimal_injective {m n : Nat} (same : decimal m = decimal n) : m = n := by
  have points : Function.Injective Digit.point := by decide
  have digits : decimalDigits m = decimalDigits n := List.map_injective_iff.2 points same
  rw [← ofDigits_decimalDigits m, digits, ofDigits_decimalDigits]

theorem decimal_ne_nil (n : Nat) : decimal n ≠ [] := by
  intro none
  exact decimalDigits_ne_nil n (List.map_eq_nil_iff.1 none)

/-- The run at the end of a list that a predicate marks off is determined. -/
theorem marked_run {α : Type} {P : α → Prop} {a b d e : List α} {x y : α} (left : ¬P x)
    (right : ¬P y) (run : ∀ c ∈ d, P c) (run' : ∀ c ∈ e, P c) (same : a ++ x :: d = b ++ y :: e) :
    a ++ [x] = b ++ [y] ∧ d = e := by
  rcases List.append_eq_append_iff.1 same with ⟨c, rfl, rest⟩ | ⟨c, rfl, rest⟩
  all_goals
    cases c with
    | nil =>
        obtain ⟨rfl, rfl⟩ := List.cons.inj rest
        simp
    | cons z c =>
        obtain ⟨rfl, rfl⟩ := List.cons.inj rest
        first
        | exact absurd (run y (by simp)) right
        | exact absurd (run' x (by simp)) left

/-- A text that ends in an underscore, and a numeral after it. -/
def numbered (stem : Text) (n : Nat) : Text := stem ++ txt "_" ++ decimal n

theorem numbered_inj {s t : Text} {m n : Nat} (same : numbered s m = numbered t n) :
    s = t ∧ m = n := by
  have mark : ¬IsDigit (CodePoint.ofChar '_') := by decide
  have shape (s : Text) (n : Nat) : numbered s n = s ++ CodePoint.ofChar '_' :: decimal n := by
    simp [numbered, txt]
  rw [shape, shape] at same
  obtain ⟨stems, numerals⟩ := marked_run mark mark (isDigit_decimal m) (isDigit_decimal n) same
  exact ⟨(List.append_inj' stems rfl).1, decimal_injective numerals⟩

def endsInDigit (t : Text) : Bool := t.getLast?.any fun c => decide (IsDigit c)

@[simp] theorem endsInDigit_numbered (s : Text) (n : Nat) : endsInDigit (numbered s n) = true := by
  have last := List.getLast_mem (decimal_ne_nil n)
  have ends : (numbered s n).getLast? = some ((decimal n).getLast (decimal_ne_nil n)) := by
    rw [numbered, List.getLast?_append_of_ne_nil _ (decimal_ne_nil n),
      List.getLast?_eq_some_getLast (decimal_ne_nil n)]
  rw [endsInDigit, ends]
  exact decide_eq_true (isDigit_decimal n _ last)

theorem numbered_ne_of_plain {s t : Text} {n : Nat} (plain : endsInDigit t = false) :
    numbered s n ≠ t := by
  rintro rfl
  simp at plain

/-! ## Labels -/

/-- What the name of a part spells. -/
inductive Label where
  | fixed (name : Text) (role : Role)
  | sample (path : List Nat)
  | deposit (purpose : Text) (n : Nat)
deriving DecidableEq

/-- The name of the sample part that a path of cuts leads to. -/
def spell (path : List Nat) : Text :=
  path.foldl (fun name i => numbered (name ++ txt "_cut") i) (txt "sample")

theorem spell_concat (path : List Nat) (i : Nat) :
    spell (path ++ [i]) = numbered (spell path ++ txt "_cut") i := by
  simp [spell, List.foldl_append]

/-- The parts that are never cut and never deposited. -/
def FIXTURES : List (Text × Role) :=
  [(txt "source_base", .source), (txt "source_bridge", .source), (txt "needle", .needle),
   (txt "target", .target), (txt "coupon", .coupon)]

namespace Label

def name : Label → Text
  | .fixed name _ => name
  | .sample path => spell path
  | .deposit purpose n => numbered purpose n

def role : Label → Role
  | .fixed _ role => role
  | .sample _ => .sample
  | .deposit _ _ => .deposition

def purpose : Label → Option Text
  | .deposit purpose _ => some purpose
  | _ => none

def Known : Label → Prop
  | .fixed name role => (name, role) ∈ FIXTURES
  | _ => True

/-- The purpose of a deposition is among those asked for, its number within a bound. -/
def Below (asked : Text → Prop) (number : Nat) : Label → Prop
  | .deposit purpose n => asked purpose ∧ n ≤ number
  | _ => True

/-- Two labels no actions will ever make one: neither path extends the other. -/
def Apart : Label → Label → Prop
  | .sample p, .sample q => ¬p <+: q ∧ ¬q <+: p
  | l, m => l ≠ m

instance (l m : Label) : Decidable (Apart l m) := by
  unfold Apart
  split <;> infer_instance

theorem Apart.ne {l m : Label} (apart : Apart l m) : l ≠ m := by
  rintro rfl
  cases l with
  | sample path => exact apart.1 (List.prefix_refl path)
  | fixed name role => exact apart rfl
  | deposit purpose n => exact apart rfl

end Label

theorem fixture_plain : ∀ fixture ∈ FIXTURES, fixture.2 ≠ .sample ∧ fixture.2 ≠ .deposition ∧
    fixture.1 ≠ txt "sample" ∧ endsInDigit fixture.1 = false := by decide

theorem sample_plain : endsInDigit (txt "sample") = false := by decide

/-- The name of a sample part determines its path. -/
theorem spell_injective : ∀ p q : List Nat, spell p = spell q → p = q := by
  intro p
  induction p using List.reverseRecOn with
  | nil =>
      intro q same
      cases q using List.reverseRecOn with
      | nil => rfl
      | append_singleton q j =>
          rw [spell_concat] at same
          exact absurd same.symm (numbered_ne_of_plain sample_plain)
  | append_singleton p i ih =>
      intro q same
      cases q using List.reverseRecOn with
      | nil =>
          rw [spell_concat] at same
          exact absurd same (numbered_ne_of_plain sample_plain)
      | append_singleton q j =>
          rw [spell_concat, spell_concat] at same
          obtain ⟨stems, rfl⟩ := numbered_inj same
          rw [ih q (List.append_inj' stems rfl).1]

/-- Parts of one role with one name have one label. -/
theorem Label.eq_of_name {l m : Label} (known : l.Known) (known' : m.Known)
    (role : l.role = m.role) (name : l.name = m.name) : l = m := by
  cases l with
  | fixed a r =>
      have plain := fixture_plain _ known
      cases m with
      | fixed b s =>
          cases (show a = b from name)
          cases (show r = s from role)
          rfl
      | sample q => exact absurd role plain.1
      | deposit t k => exact absurd role plain.2.1
  | sample p =>
      cases m with
      | fixed b s => exact absurd role.symm (fixture_plain _ known').1
      | sample q => rw [spell_injective p q name]
      | deposit t k => cases role
  | deposit t n =>
      cases m with
      | fixed b s => exact absurd role.symm (fixture_plain _ known').2.1
      | sample q => cases role
      | deposit u k =>
          obtain ⟨rfl, rfl⟩ := numbered_inj name
          rfl

/-- The name of some sample part, followed by `_cut`. -/
def FragmentPurpose (purpose : Text) : Prop := ∃ path, purpose = spell path ++ txt "_cut"

/-- **Different labels have different names**, where no purpose is a fragment's. -/
theorem Label.name_ne {l m : Label} (known : l.Known) (known' : m.Known) (ne : l ≠ m)
    (plain : ∀ t ∈ l.purpose, ¬FragmentPurpose t) (plain' : ∀ t ∈ m.purpose, ¬FragmentPurpose t) :
    l.name ≠ m.name := by
  -- A cut part and a deposition share a name only where the purpose is the fragment's.
  have cut_deposit (path : List Nat) (t : Text) (n : Nat) (allowed : ¬FragmentPurpose t) :
      spell path ≠ numbered t n := by
    cases path using List.reverseRecOn with
    | nil => exact (numbered_ne_of_plain sample_plain).symm
    | append_singleton path i =>
        intro same
        rw [spell_concat] at same
        exact allowed ⟨path, (numbered_inj same).1.symm⟩
  have fixed_cut (a : Text) (r : Role) (path : List Nat) (listed : (a, r) ∈ FIXTURES) :
      a ≠ spell path := by
    have := fixture_plain _ listed
    cases path using List.reverseRecOn with
    | nil => exact this.2.2.1
    | append_singleton path i =>
        rw [spell_concat]
        exact (numbered_ne_of_plain this.2.2.2).symm
  have fixed_deposit (a : Text) (r : Role) (t : Text) (n : Nat) (listed : (a, r) ∈ FIXTURES) :
      a ≠ numbered t n := (numbered_ne_of_plain (fixture_plain _ listed).2.2.2).symm
  intro name
  cases l with
  | fixed a r =>
      cases m with
      | fixed b s =>
          have roles : ∀ f ∈ FIXTURES, ∀ g ∈ FIXTURES, f.1 = g.1 → f.2 = g.2 := by decide
          exact ne (Label.eq_of_name known known' (roles _ known _ known' name) name)
      | sample q => exact fixed_cut a r q known name
      | deposit t n => exact fixed_deposit a r t n known name
  | sample p =>
      cases m with
      | fixed b s => exact fixed_cut b s p known' name.symm
      | sample q => exact ne (Label.eq_of_name known known' rfl name)
      | deposit t n => exact cut_deposit p t n (plain' t rfl) name
  | deposit t n =>
      cases m with
      | fixed b s => exact fixed_deposit b s t n known' name.symm
      | sample q => exact cut_deposit q t n (plain t rfl) name.symm
      | deposit u k => exact ne (Label.eq_of_name known known' rfl name)

/-! ## Scenes -/

/-- What tells a part from the others. -/
structure Identity where
  name : Text
  role : Role
  purpose : Option Text
deriving DecidableEq

def MeshPart.identity {K : Type} (part : MeshPart K) : Identity :=
  ⟨part.name, part.role, part.purpose⟩

/-- The identity that a label gives. -/
def Label.identity (l : Label) : Identity := ⟨l.name, l.role, l.purpose⟩

structure Labelled (i : Identity) (l : Label) : Prop where
  known : l.Known
  same : i = l.identity

theorem Labelled.unique {i : Identity} {l m : Label} (first : Labelled i l)
    (second : Labelled i m) : l = m := by
  have same := first.same.symm.trans second.same
  exact Label.eq_of_name first.known second.known (congrArg Identity.role same)
    (congrArg Identity.name same)

/-- Every part has a label, and the labels are apart. -/
structure Named (asked : Text → Prop) (number : Nat) (scene : List Identity) : Prop where
  labelled : ∀ i ∈ scene, ∃ l : Label, Labelled i l ∧ l.Below asked number
  apart : scene.Pairwise fun i j => ∀ l m, Labelled i l → Labelled j m → l.Apart m

namespace Named

variable {asked : Text → Prop}

theorem mono {m n : Nat} {scene : List Identity} (named : Named asked m scene) (more : m ≤ n) :
    Named asked n scene where
  apart := named.apart
  labelled := by
    intro i listed
    obtain ⟨l, labelled, below⟩ := named.labelled i listed
    refine ⟨l, labelled, ?_⟩
    cases l with
    | deposit purpose k => exact ⟨below.1, below.2.trans more⟩
    | fixed name role => trivial
    | sample path => trivial

/-- Parts taken off leave the others named. -/
theorem sublist {n : Nat} {scene scene' : List Identity} (named : Named asked n scene)
    (fewer : scene'.Sublist scene) : Named asked n scene' where
  labelled i listed := named.labelled i (fewer.subset listed)
  apart := named.apart.sublist fewer

/-- The label of a piece extends the label of the part it is cut from. -/
def Extends (l m : Label) : Prop :=
  l = m ∨ ∃ path i, l = .sample path ∧ m = .sample (path ++ [i])

theorem Extends.apart {l l' m m' : Label} (first : Extends l m) (apart : l.Apart l')
    (second : Extends l' m') : m.Apart m' := by
  rcases first with rfl | ⟨p, i, rfl, rfl⟩
  · rcases second with rfl | ⟨q, j, rfl, rfl⟩
    · exact apart
    · cases l with
      | sample p =>
          refine ⟨?_, ?_⟩
          · intro begins
            rcases List.prefix_concat_iff.1 begins with rfl | shorter
            · exact apart.2 (List.prefix_append q [j])
            · exact apart.1 shorter
          · intro begins
            exact apart.2 ((List.prefix_append q [j]).trans begins)
      | fixed name role => nofun
      | deposit purpose n => nofun
  · rcases second with rfl | ⟨q, j, rfl, rfl⟩
    · cases l' with
      | sample q =>
          refine ⟨?_, ?_⟩
          · intro begins
            exact apart.1 ((List.prefix_append p [i]).trans begins)
          · intro begins
            rcases List.prefix_concat_iff.1 begins with rfl | shorter
            · exact apart.1 (List.prefix_append p [i])
            · exact apart.2 shorter
      | fixed name role => nofun
      | deposit purpose n => nofun
    · refine ⟨?_, ?_⟩
      · intro begins
        rcases List.prefix_concat_iff.1 begins with same | shorter
        · obtain ⟨rfl, -⟩ := List.append_inj' same rfl
          exact apart.1 (List.prefix_refl p)
        · exact apart.1 ((List.prefix_append p [i]).trans shorter)
      · intro begins
        rcases List.prefix_concat_iff.1 begins with same | shorter
        · obtain ⟨rfl, -⟩ := List.append_inj' same rfl
          exact apart.2 (List.prefix_refl q)
        · exact apart.2 ((List.prefix_append q [j]).trans shorter)

/-- A part gives way to pieces that extend it and are apart from each other. -/
structure Descends (i : Identity) (pieces : List Identity) : Prop where
  extend : ∀ l, Labelled i l → ∀ j ∈ pieces, ∃ m, Labelled j m ∧ Extends l m
  apart : ∀ l, Labelled i l →
    pieces.Pairwise fun j k => ∀ m m', Labelled j m → Labelled k m' → m.Apart m'

/-- **A scene whose parts give way to pieces of their own stays named.** -/
theorem pieces {n : Nat} {scene : List Identity} {parts : List (List Identity)}
    (named : Named asked n scene) (descend : List.Forall₂ Descends scene parts) :
    Named asked n parts.flatten where
  labelled := by
    intro j listed
    obtain ⟨piece, taken, inside⟩ := List.mem_flatten.1 listed
    obtain ⟨i, original, descends⟩ := exists_of_forall₂ descend taken
    obtain ⟨l, labelled, below⟩ := named.labelled i original
    obtain ⟨m, labelled', extended⟩ := descends.extend l labelled j inside
    refine ⟨m, labelled', ?_⟩
    rcases extended with rfl | ⟨path, k, rfl, rfl⟩
    · exact below
    · trivial
  apart := by
    rw [List.pairwise_flatten]
    constructor
    · intro piece taken
      obtain ⟨i, original, descends⟩ := exists_of_forall₂ descend taken
      obtain ⟨l, labelled, -⟩ := named.labelled i original
      exact descends.apart l labelled
    · have both : scene.Pairwise fun i j => (∃ l, Labelled i l) ∧ (∃ m, Labelled j m) ∧
          ∀ l m, Labelled i l → Labelled j m → l.Apart m := by
        refine (List.pairwise_iff_forall_sublist.2 fun {i j} fewer => ?_)
        have := List.pairwise_iff_forall_sublist.1 named.apart fewer
        obtain ⟨l, label, -⟩ := named.labelled i (fewer.subset (by simp))
        obtain ⟨m, label', -⟩ := named.labelled j (fewer.subset (by simp))
        exact ⟨⟨l, label⟩, ⟨m, label'⟩, this⟩
      refine pairwise_of_forall₂ ?_ descend both
      rintro i j pieces pieces' ⟨⟨l, label⟩, ⟨m, label'⟩, apart⟩ from_i from_j x inside y inside'
        l' m' labelled labelled'
      obtain ⟨u, ofX, extended⟩ := from_i.extend l label x inside
      obtain ⟨v, ofY, extended'⟩ := from_j.extend m label' y inside'
      cases labelled.unique ofX
      cases labelled'.unique ofY
      exact extended.apart (apart l m label label') extended'

/-- A scene whose parts are named after labels that are apart. -/
theorem of_labels {n : Nat} {labels : List Label} (known : ∀ l ∈ labels, l.Known ∧ l.Below asked n)
    (apart : labels.Pairwise Label.Apart) : Named asked n (labels.map Label.identity) where
  labelled := by
    intro i listed
    obtain ⟨l, original, rfl⟩ := List.mem_map.1 listed
    exact ⟨l, ⟨(known l original).1, rfl⟩, (known l original).2⟩
  apart := by
    rw [List.pairwise_map]
    refine List.Pairwise.imp_of_mem ?_ apart
    intro l m listed listed' apart l' m' label label'
    cases label.unique ⟨(known l listed).1, rfl⟩
    cases label'.unique ⟨(known m listed').1, rfl⟩
    exact apart

theorem descends_self {i : Identity} : Descends i [i] where
  extend l labelled j listed := by
    cases List.mem_singleton.1 listed
    exact ⟨l, labelled, Or.inl rfl⟩
  apart _ _ := List.pairwise_singleton _ _

theorem descends_nil {i : Identity} : Descends i [] where
  extend _ _ _ listed := by cases listed
  apart _ _ := .nil

end Named

/-! ## The code's scenes -/

section

variable {K ρ : Type} [Add K] [Sub K] [Neg K] [Mul K] [Div K] [LT K] [DecidableLT K] [LE K]
  [DecidableLE K] [OfScientific K] {setup : Setup K ρ} {asked : Text → Prop}

/-- The identities of a scene's parts. -/
def identities (parts : List (MeshPart K)) : List Identity := parts.map MeshPart.identity

theorem map_identities_name (parts : List (MeshPart K)) :
    (identities parts).map Identity.name = parts.map MeshPart.name := by
  rw [identities, List.map_map]
  rfl

theorem MeshPart.new_ok {name : Text} {role : Role} {mesh : TriangleMesh K}
    {purpose : Option Text} {part : MeshPart K}
    (made : MeshPart.new name role mesh purpose = .ok part) :
    part.identity = ⟨name, role, purpose⟩ ∧ part.mesh = mesh := by
  unfold MeshPart.new at made
  split at made
  · split at made
    · cases made
      exact ⟨rfl, rfl⟩
    · cases made
  · cases made

theorem TriangleMesh.checked_ok {N : Numerics K} {m m' : TriangleMesh K}
    (made : m.checked N = .ok m') : m' = m := by
  unfold TriangleMesh.checked at made
  split at made
  · cases made
    rfl
  · cases made

/-- A part that was moved is the same part. -/
theorem translatedPart_ok {delta : Vec K} {part moved : MeshPart K}
    (made : translatedPart setup delta part = .ok moved) :
    moved.identity = part.identity ∧ moved.mesh = part.mesh.translate delta := by
  obtain ⟨mesh, checked, made⟩ := bind_ok_iff.1 made
  obtain ⟨identity, same⟩ := MeshPart.new_ok made
  exact ⟨identity, same.trans (TriangleMesh.checked_ok checked)⟩

theorem Carried.identities {delta : Vec K} {before after : List (MeshPart K)}
    (carried : Carried setup delta before after) :
    Geometry.identities after = Geometry.identities before := by
  have loop := mapM_ok_iff.1 carried
  unfold Geometry.identities
  generalize carrySample before = joined at loop
  clear carried
  induction loop with
  | nil => rfl
  | cons here _ ih =>
      rw [List.map_cons, List.map_cons, ih]
      congr 1
      split at here
      · exact (translatedPart_ok here).1
      · cases here
        rfl

theorem fragment_ok {part piece : MeshPart K} {index : Nat} {bounds : Bounds K}
    (made : fragment setup part index bounds = .ok piece) :
    piece.identity = ⟨numbered (part.name ++ txt "_cut") index, .sample, none⟩ := by
  obtain ⟨mesh, -, made⟩ := bind_ok_iff.1 made
  have spelled : part.name ++ txt "_cut_" ++ decimal index =
      numbered (part.name ++ txt "_cut") index := by
    simp only [numbered, List.append_assoc]
    rfl
  rw [← spelled]
  exact (MeshPart.new_ok made).1

/-- The fragments of a part are numbered from one. -/
theorem identities_fragments {part : MeshPart K} {fragments : List (Bounds K)}
    {pieces : List (MeshPart K)}
    (made : (fragments.zipIdx 1).mapM (fun piece => fragment setup part piece.2 piece.1) =
      .ok pieces) :
    identities pieces = (List.range' 1 fragments.length).map fun i =>
      ⟨numbered (part.name ++ txt "_cut") i, .sample, none⟩ := by
  rw [← List.zipIdx_map_snd 1 fragments, List.map_map]
  have loop := mapM_ok_iff.1 made
  clear made
  generalize fragments.zipIdx 1 = indexed at loop
  unfold identities
  induction loop with
  | nil => rfl
  | cons here _ ih =>
      rw [List.map_cons, List.map_cons, ih]
      congr 1
      exact fragment_ok here

/-- What a cut leaves of a part descends from it. -/
theorem descends_cutPart {cutter : Bounds K} {part : MeshPart K} {pieces : List (MeshPart K)}
    (made : cutPart setup cutter part = .ok pieces) :
    Named.Descends part.identity (identities pieces) := by
  unfold cutPart at made
  split at made
  case isTrue other =>
      cases made
      exact Named.descends_self
  case isFalse role =>
  obtain ⟨box, -, made⟩ := bind_ok_iff.1 made
  split at made
  case isTrue outside =>
      cases made
      exact Named.descends_self
  case isFalse inside =>
  obtain ⟨fragments, -, made⟩ := bind_ok_iff.1 made
  have listed := identities_fragments made
  -- The part's label is a path, and its pieces are the path with an index more.
  have path_of (l : Label) (labelled : Labelled part.identity l) :
      ∃ path, l = .sample path ∧ part.name = spell path := by
    have role' : l.role = .sample :=
          (congrArg Identity.role labelled.same).symm.trans (not_not.1 role)
    cases l with
    | sample path => exact ⟨path, rfl, congrArg Identity.name labelled.same⟩
    | fixed name r => exact absurd role' (fixture_plain _ labelled.known).1
    | deposit purpose n => cases role'
  have piece (path : List Nat) (i : Nat) (named : part.name = spell path) :
      Labelled ⟨numbered (part.name ++ txt "_cut") i, .sample, none⟩
        (.sample (path ++ [i])) := by
    refine ⟨trivial, ?_⟩
    rw [Label.identity, Label.name, spell_concat, named]
    rfl
  rw [listed]
  constructor
  · intro l labelled j inside
    obtain ⟨path, rfl, named⟩ := path_of l labelled
    obtain ⟨i, -, rfl⟩ := List.mem_map.1 inside
    exact ⟨_, piece path i named, Or.inr ⟨path, i, rfl, rfl⟩⟩
  · intro l labelled
    obtain ⟨path, rfl, named⟩ := path_of l labelled
    rw [List.pairwise_map]
    refine List.Pairwise.imp ?_ List.nodup_range'
    intro i j ne m m' label label'
    cases label.unique (piece path i named)
    cases label'.unique (piece path j named)
    have same_of (i j : Nat) (begins : path ++ [i] <+: path ++ [j]) : i = j := by
      simpa using begins
    exact ⟨fun begins => ne (same_of i j begins), fun begins => ne (same_of j i begins).symm⟩

theorem descends_leaves {reached : MeshPart K → Bool} {cutter : Bounds K} {part : MeshPart K}
    {pieces : List (MeshPart K)} (made : leaves reached cutter part = .ok pieces) :
    Named.Descends part.identity (identities pieces) := by
  unfold leaves at made
  split at made
  · obtain ⟨box, -, made⟩ := bind_ok_iff.1 made
    cases made
    split
    · exact Named.descends_nil
    · exact Named.descends_self
  · cases made
    exact Named.descends_self

/-- A loop over the parts, each of which gives way to pieces of its own. -/
theorem Named.loop {n : Nat} {parts left : List (MeshPart K)}
    {f : MeshPart K → Except PyError (List (MeshPart K))}
    (each : ∀ part pieces, f part = .ok pieces →
      Named.Descends part.identity (identities pieces))
    (made : (parts.mapM f).map List.flatten = .ok left) (named : Named asked n (identities parts)) :
    Named asked n (identities left) := by
  obtain ⟨pieces, loop, rfl⟩ := map_ok_iff.1 made
  have descend : List.Forall₂ Named.Descends (identities parts) (pieces.map identities) := by
    unfold identities
    rw [List.forall₂_map_left_iff, List.forall₂_map_right_iff]
    exact (mapM_ok_iff.1 loop).imp each
  have flat : identities pieces.flatten = (pieces.map identities).flatten := List.map_flatten
  rw [flat]
  exact named.pieces descend

theorem Named.cutParts {n : Nat} {purpose : Text} {cutter : Bounds K}
    {parts left : List (MeshPart K)} (made : cutParts setup purpose cutter parts = .ok left)
    (named : Named asked n (identities parts)) : Named asked n (identities left) := by
  unfold Geometry.cutParts at made
  split at made
  · exact named.loop (fun _ _ => descends_leaves) made
  · split at made
    · exact named.loop (fun _ _ => descends_leaves) made
    · split at made
      · exact named.loop (fun _ _ => descends_cutPart) made
      · cases made
        exact named

theorem detach_sublist (parts : List (MeshPart K)) : (detach parts).Sublist parts := by
  unfold detach
  split
  · exact List.filter_sublist
  · exact List.Sublist.refl parts

theorem deposited_ok {purpose : Text} {n : Nat} {bounds : Bounds K} {part : MeshPart K}
    (made : deposited setup purpose n bounds = .ok part) :
    part.identity = (Label.deposit purpose n).identity := by
  obtain ⟨mesh, -, made⟩ := bind_ok_iff.1 made
  exact (MeshPart.new_ok made).1

/-- A deposition under a new number is apart from every part before it. -/
theorem Named.deposit {m n : Nat} {scene : List Identity} {purpose : Text}
    (named : Named asked m scene) (allowed : asked purpose) (fresh : m < n) :
    Named asked n (scene ++ [(Label.deposit purpose n).identity]) where
  labelled := by
    intro i listed
    rcases List.mem_append.1 listed with before | new
    · exact (named.mono fresh.le).labelled i before
    · cases List.mem_singleton.1 new
      exact ⟨.deposit purpose n, ⟨trivial, rfl⟩, allowed, le_rfl⟩
  apart := by
    rw [List.pairwise_append]
    refine ⟨named.apart, List.pairwise_singleton _ _, ?_⟩
    intro i before j new l m labelled labelled'
    cases List.mem_singleton.1 new
    cases labelled'.unique (m := .deposit purpose n) ⟨trivial, rfl⟩
    obtain ⟨l', label, below⟩ := named.labelled i before
    cases labelled.unique label
    cases l with
    | deposit t k =>
        rintro ⟨⟩
        exact absurd fresh (not_lt.2 below.2)
    | fixed name role => nofun
    | sample path => nofun

/-- **Every action keeps the scene named.** -/
theorem Named.step {b : Backend K ρ} (named : Named asked b.operationNumber (identities b.parts))
    {action : Action} (allowed : ∀ purpose, Deposits action purpose → asked purpose) :
    Named asked (Geometry.step setup b action).operationNumber
      (identities (Geometry.step setup b action).parts) := by
  have effect := step_effect setup b action
  generalize Geometry.step setup b action = t at effect
  cases effect with
  | quiet still =>
      rw [still.parts]
      exact named.mono still.number
  | detached parts needle collision number =>
      rw [parts]
      exact (named.sublist ((detach_sublist b.parts).map _)).mono number
  | moved remaining kept carried collision number =>
      rw [carried.identities]
      refine Named.mono ?_ number
      rcases kept with rfl | ⟨-, rfl⟩
      · exact named
      · exact named.sublist ((detach_sublist b.parts).map _)
  | cut purpose cutter parts needle collision number =>
      exact (named.cutParts parts).mono number
  | deposited purpose bounds part n deposits made parts needle collision fresh number =>
      rw [parts, identities, List.map_append, List.map_singleton, deposited_ok made]
      exact (named.deposit (allowed purpose deposits) fresh).mono number

/-- The labels of the parts a backend starts with. -/
def INITIAL : List Label :=
  [.fixed (txt "source_base") .source, .fixed (txt "source_bridge") .source, .sample [],
   .fixed (txt "needle") .needle, .fixed (txt "target") .target, .fixed (txt "coupon") .coupon]

theorem identities_initialParts {parts : List (MeshPart K)}
    (made : initialParts setup = .ok parts) : identities parts = INITIAL.map Label.identity := by
  have box {name : String} {role : Role} {center size : Vec K} {part : MeshPart K}
      (made : boxPart setup name role center size = .ok part) :
      part.identity = ⟨txt name, role, none⟩ := by
    obtain ⟨mesh, -, made⟩ := bind_ok_iff.1 made
    exact (MeshPart.new_ok made).1
  obtain ⟨center, -, made⟩ := bind_ok_iff.1 made
  obtain ⟨bridge, -, made⟩ := bind_ok_iff.1 made
  obtain ⟨tip, -, made⟩ := bind_ok_iff.1 made
  obtain ⟨target, -, made⟩ := bind_ok_iff.1 made
  obtain ⟨coupon, -, made⟩ := bind_ok_iff.1 made
  obtain ⟨p, base, made⟩ := bind_ok_iff.1 made
  obtain ⟨q, bridge', made⟩ := bind_ok_iff.1 made
  obtain ⟨r, sample, made⟩ := bind_ok_iff.1 made
  obtain ⟨s, needle, made⟩ := bind_ok_iff.1 made
  obtain ⟨t, target', made⟩ := bind_ok_iff.1 made
  obtain ⟨u, coupon', made⟩ := bind_ok_iff.1 made
  cases made
  simp only [identities, List.map_cons, List.map_nil, box base, box bridge', box sample,
    box needle, box target', box coupon']
  rfl

theorem new_parts {runtime : ρ} {b : Backend K ρ} (made : Backend.new setup runtime = .ok b) :
    initialParts setup = .ok b.parts ∧ b.operationNumber = 0 := by
  obtain ⟨needle, -, made⟩ := bind_ok_iff.1 made
  obtain ⟨parts, initial, made⟩ := bind_ok_iff.1 made
  split at made
  · cases made
  · split at made
    · cases made
    · cases made
      exact ⟨initial, rfl⟩

theorem Named.new {runtime : ρ} {b : Backend K ρ} (made : Backend.new setup runtime = .ok b) :
    Named asked b.operationNumber (identities b.parts) := by
  obtain ⟨initial, -⟩ := new_parts made
  rw [identities_initialParts initial]
  refine Named.of_labels ?_ (by decide)
  have known : ∀ l ∈ INITIAL, l = .sample [] ∨ ∃ f ∈ FIXTURES, l = .fixed f.1 f.2 := by
    decide
  intro l listed
  rcases known l listed with rfl | ⟨f, fixture, rfl⟩
  · exact ⟨trivial, trivial⟩
  · exact ⟨fixture, trivial⟩

/-- A run keeps the scene named. -/
theorem Named.run (setup : Setup K ρ) {b : Backend K ρ} (named : Named asked b.operationNumber (identities b.parts))
    {actions : List Action}
    (allowed : ∀ action ∈ actions, ∀ purpose, Deposits action purpose → asked purpose) :
    Named asked (Geometry.run setup b actions).operationNumber
      (identities (Geometry.run setup b actions).parts) := by
  induction actions generalizing b with
  | nil => exact named
  | cons action rest ih =>
      rw [List.forall_mem_cons] at allowed
      exact ih (named.step allowed.1) allowed.2

/-- Where no purpose is a fragment's, a named scene names its parts apart. -/
theorem Named.nodup {n : Nat} {parts : List (MeshPart K)}
    (named : Named (fun t => ¬FragmentPurpose t) n (identities parts)) :
    (parts.map MeshPart.name).Nodup := by
  rw [← map_identities_name, List.Nodup, List.pairwise_map]
  refine List.Pairwise.imp_of_mem ?_ named.apart
  intro i j listed listed' apart
  obtain ⟨l, label, below⟩ := named.labelled i listed
  obtain ⟨m, label', below'⟩ := named.labelled j listed'
  have plain (l : Label) (below : l.Below (fun t => ¬FragmentPurpose t) n) :
      ∀ t ∈ l.purpose, ¬FragmentPurpose t := by
    cases l with
    | deposit purpose k =>
        intro t same
        cases same
        exact below.1
    | fixed name role => nofun
    | sample path => nofun
  rw [label.same, label'.same]
  exact Label.name_ne label.known label'.known (apart l m label label').ne (plain l below)
    (plain m below')

/-! ## What is exported -/

/-- A node of the exported scene. -/
structure GlbNode where
  name : Text
  mesh : Nat
  role : Role
  purpose : Option Text
deriving DecidableEq

/-- The nodes of `_glb`. -/
def glbNodes (parts : List (MeshPart K)) : List GlbNode :=
  parts.zipIdx.map fun item => ⟨item.1.name, item.2, item.1.role, item.1.purpose⟩

theorem glbNodes_names (parts : List (MeshPart K)) :
    (glbNodes parts).map GlbNode.name = parts.map MeshPart.name := by
  rw [glbNodes, List.map_map]
  show parts.zipIdx.map (MeshPart.name ∘ Prod.fst) = _
  rw [← List.map_map, List.zipIdx_map_fst]

/-- What `SceneSnapshot` says of parts that share a name. -/
def duplicateNames : PyError := .valueError (txt "scene part names must be non-empty and unique")

/-- Parts taken into a snapshot keep their identities. -/
theorem identities_frozen {parts frozen : List (MeshPart K)}
    (made : (parts.mapM fun part => do
      let mesh ← part.mesh.checked setup.numerics
      MeshPart.new part.name part.role mesh part.purpose) = .ok frozen) :
    identities frozen = identities parts := by
  have loop := mapM_ok_iff.1 made
  clear made
  unfold identities
  induction loop with
  | nil => rfl
  | cons here _ ih =>
      rw [List.map_cons, List.map_cons, ih]
      congr 1
      obtain ⟨mesh, -, here⟩ := bind_ok_iff.1 here
      exact (MeshPart.new_ok here).1

theorem checked_ne_duplicate (N : Numerics K) (m : TriangleMesh K) :
    m.checked N ≠ .error duplicateNames := by
  unfold TriangleMesh.checked
  split
  · nofun
  · exact fun same => absurd (Except.error.inj same) (by decide)

theorem new_ne_duplicate (name : Text) (role : Role) (mesh : TriangleMesh K)
    (purpose : Option Text) : MeshPart.new name role mesh purpose ≠ .error duplicateNames := by
  unfold MeshPart.new
  split
  · split
    · nofun
    · exact fun same => absurd (Except.error.inj same) (by decide)
  · exact fun same => absurd (Except.error.inj same) (by decide)

theorem resolve_ne_duplicate (frames : List (Text × PoseSpec K)) (fuel : Nat) :
    ∀ (seen : List Text) (name : Text),
      ScenarioSpec.resolve frames fuel seen name ≠ .error duplicateNames := by
  induction fuel with
  | zero => exact fun _ _ same => absurd (Except.error.inj same) (by decide)
  | succ fuel ih =>
      intro seen name
      rw [ScenarioSpec.resolve]
      split
      · nofun
      · split
        · exact fun same => absurd (Except.error.inj same) (by decide)
        · split
          · nofun
          · rename_i pose _
            have parent := ih (name :: seen) pose.relativeTo
            split
            · rename_i e raised
              rw [raised] at parent
              exact fun same => parent (by cases same; rfl)
            · nofun

theorem pose_ne_duplicate (N : Numerics K) (position orientation : Vec K) :
    PoseState.new N position orientation ≠ .error duplicateNames := by
  have vector (v : Vec K) (name : String) (plain : PyError.valueError
      (txt name ++ txt " must be finite") ≠ duplicateNames) :
      finiteVec N v (txt name) ≠ .error duplicateNames := by
    unfold finiteVec
    split
    · nofun
    · exact fun same => plain (Except.error.inj same)
  refine bind_ne_error (vector _ _ (by decide)) fun _ _ => ?_
  exact bind_ne_error (vector _ _ (by decide)) fun _ _ => nofun

/-- **A snapshot of distinct parts is not refused for their names.** -/
theorem freezeSnapshot_named {b : Backend K ρ} (some : b.parts ≠ [])
    (distinct : (b.parts.map MeshPart.name).Nodup) (stepId : Text) :
    freezeSnapshot setup b stepId ≠ .error duplicateNames := by
  refine bind_ne_error (mapM_ne_error (fun part => ?_) b.parts) fun parts frozen => ?_
  · exact bind_ne_error (checked_ne_duplicate _ _) fun _ _ => new_ne_duplicate _ _ _ _
  have same := identities_frozen frozen
  have names : parts.map MeshPart.name = b.parts.map MeshPart.name := by
    rw [← map_identities_name, same, map_identities_name]
  have some' : parts ≠ [] := by
    rintro rfl
    exact some (by simpa [identities] using same)
  refine bind_ne_error ?_ fun center _ => ?_
  · unfold sampleCenter
    split
    · exact resolve_ne_duplicate _ _ _ _
    · nofun
  refine bind_ne_error ?_ fun orientation _ => ?_
  · unfold ScenarioSpec.orientation
    split <;> nofun
  refine bind_ne_error (pose_ne_duplicate _ _ _) fun sample _ => ?_
  refine bind_ne_error (pose_ne_duplicate _ _ _) fun needle _ => ?_
  unfold SceneSnapshot.checked
  split
  · exact fun same => absurd (Except.error.inj same) (by decide)
  · rw [if_neg (by rw [names]; exact not_or.2 ⟨some', not_not.2 distinct⟩)]
    split
    · exact fun same => absurd (Except.error.inj same) (by decide)
    · split
      · exact fun same => absurd (Except.error.inj same) (by decide)
      · nofun

/-- A snapshot that is made has parts of distinct names. -/
theorem freezeSnapshot_ok {b : Backend K ρ} {stepId : Text} {snapshot : SceneSnapshot K}
    (made : freezeSnapshot setup b stepId = .ok snapshot) :
    (b.parts.map MeshPart.name).Nodup := by
  obtain ⟨parts, frozen, made⟩ := bind_ok_iff.1 made
  obtain ⟨center, -, made⟩ := bind_ok_iff.1 made
  obtain ⟨orientation, -, made⟩ := bind_ok_iff.1 made
  obtain ⟨sample, -, made⟩ := bind_ok_iff.1 made
  obtain ⟨needle, -, made⟩ := bind_ok_iff.1 made
  rw [← map_identities_name, ← identities_frozen frozen, map_identities_name]
  unfold SceneSnapshot.checked at made
  split at made
  · cases made
  · split at made
    · cases made
    · rename_i distinct
      exact not_not.1 (not_or.1 distinct).2

/-! ## Distinct names -/

/-- A part that every cut leaves alone. -/
theorem mem_loop {parts left : List (MeshPart K)} {part : MeshPart K}
    {f : MeshPart K → Except PyError (List (MeshPart K))} (spared : f part = .ok [part])
    (made : (parts.mapM f).map List.flatten = .ok left) (listed : part ∈ parts) :
    part ∈ left := by
  obtain ⟨pieces, loop, rfl⟩ := map_ok_iff.1 made
  have each := mapM_ok_iff.1 loop
  clear made loop
  induction each with
  | nil => cases listed
  | cons here _ ih =>
      rw [List.flatten_cons, List.mem_append]
      rcases List.mem_cons.1 listed with rfl | later
      · cases spared.symm.trans here
        exact Or.inl List.mem_cons_self
      · exact Or.inr (ih later)

theorem mem_cutParts {purpose : Text} {cutter : Bounds K} {parts left : List (MeshPart K)}
    {part : MeshPart K} (role : part.role ≠ .sample ∧ part.role ≠ .deposition)
    (bridge : part.name ≠ txt "source_bridge")
    (made : cutParts setup purpose cutter parts = .ok left) (listed : part ∈ parts) :
    part ∈ left := by
  have unjoined (purpose : String) : hasPurpose purpose part = false := by
    simp [hasPurpose, role.2]
  unfold cutParts at made
  split at made
  · refine mem_loop ?_ made listed
    rw [leaves, if_neg (by simp [isSourceBridge, bridge])]
  · split at made
    · refine mem_loop ?_ made listed
      rw [leaves, if_neg (by simp [isJoint, unjoined])]
    · split at made
      · refine mem_loop ?_ made listed
        rw [cutPart, if_pos role.1]
      · cases made
        exact listed

theorem mem_detach {parts : List (MeshPart K)} {part : MeshPart K}
    (role : part.role ≠ .deposition) (listed : part ∈ parts) : part ∈ detach parts := by
  unfold detach
  split
  · exact List.mem_filter.2 ⟨listed, by simp [hasPurpose, role]⟩
  · exact listed

/-- The needle is a part of the scene. -/
def NeedleListed (parts : List (MeshPart K)) : Prop :=
  (Label.fixed (txt "needle") .needle).identity ∈ identities parts

theorem NeedleListed.step {b : Backend K ρ} (listed : NeedleListed b.parts) (action : Action) :
    NeedleListed (Geometry.step setup b action).parts := by
  obtain ⟨part, original, same⟩ := List.mem_map.1 listed
  have role : part.role = .needle := congrArg Identity.role same
  have name : part.name = txt "needle" := congrArg Identity.name same
  have unjoined : part.role ≠ .deposition := by rw [role]; nofun
  have detached : NeedleListed (detach b.parts) :=
    List.mem_map.2 ⟨part, mem_detach unjoined original, same⟩
  have effect := step_effect setup b action
  generalize Geometry.step setup b action = t at effect
  cases effect with
  | quiet still =>
      rw [still.parts]
      exact listed
  | detached parts needle collision number =>
      rw [parts]
      exact detached
  | moved remaining kept carried collision number =>
      rw [NeedleListed, carried.identities]
      rcases kept with rfl | ⟨-, rfl⟩
      · exact listed
      · exact detached
  | cut purpose cutter parts needle collision number =>
      refine List.mem_map.2 ⟨part, mem_cutParts ⟨?_, unjoined⟩ ?_ parts original, same⟩
      · rw [role]
        nofun
      · rw [name]
        decide
  | deposited purpose bounds part n deposits made parts needle collision fresh number =>
      rw [NeedleListed, parts, identities, List.map_append]
      exact List.mem_append_left _ listed

/-- The needle is a part of every scene. -/
theorem needle_listed {b : Backend K ρ} {runtime : ρ} (made : Backend.new setup runtime = .ok b)
    (actions : List Action) : NeedleListed (run setup b actions).parts := by
  have start : NeedleListed b.parts := by
    rw [NeedleListed, identities_initialParts (new_parts made).1]
    decide
  clear made
  induction actions generalizing b with
  | nil => exact start
  | cons action rest ih => exact ih (start.step action)

/-- **The parts of a scene have distinct names in every reachable state**, whatever
order cuts, depositions, separations, motions and shutdowns come in, so long as no
deposition's purpose is the name of a sample part followed by `_cut`: a snapshot is
never refused for their names, and the nodes of the exported scene are distinct. -/
theorem part_names_unique {b : Backend K ρ} {runtime : ρ}
    (made : Backend.new setup runtime = .ok b) (actions : List Action)
    (plain : ∀ action ∈ actions, ∀ purpose, Deposits action purpose → ¬FragmentPurpose purpose) :
    ((run setup b actions).parts.map MeshPart.name).Nodup ∧
      (∀ stepId, freezeSnapshot setup (run setup b actions) stepId ≠ .error duplicateNames) ∧
      ((glbNodes (run setup b actions).parts).map GlbNode.name).Nodup := by
  have named := (Named.new made).run setup plain
  have distinct := named.nodup
  have some : (run setup b actions).parts ≠ [] := by
    have listed := needle_listed made actions
    intro none
    rw [NeedleListed, none] at listed
    cases listed
  refine ⟨distinct, freezeSnapshot_named some distinct, ?_⟩
  rw [glbNodes_names]
  exact distinct

end

/-! ## The dispatcher's purposes, and one it does not let through -/

open InstrumentBench.Fibsem.Microscope in
/-- No deposition a dispatcher lets through is named like a fragment. -/
theorem not_fragmentPurpose : ∀ purpose ∈ DEPOSITION_PURPOSES, ¬FragmentPurpose purpose := by
  have suffixes : ∀ purpose ∈ DEPOSITION_PURPOSES, ¬txt "_cut" <:+ purpose := by decide
  rintro purpose listed ⟨path, rfl⟩
  exact suffixes _ listed (List.suffix_append _ _)

section

variable {K : Type} [Add K] [Sub K] [Neg K] [Mul K] [Div K] [LT K] [DecidableLT K] [LE K]
  [DecidableLE K] [OfScientific K]

/-- A simulator that does what it is told. -/
def obedient : Runtime K Unit where
  sourceCommit _ := OPENFIBSEM_COMMIT
  ping _ := (.ok true, ())
  acquireImage _ _ := (.ok (1, 1, [0]), ())
  moveStage _ _ := (.ok (), ())
  moveManipulator _ _ _ := (.ok (), ())
  runPattern _ _ _ _ _ := (.ok (), ())
  stop _ _ := (.ok (), ())
  synchronize _ _ := (.ok (), ())
  close _ := (.ok (), ())

/-- A sample of ten by eight by six, with every frame in the world. -/
def bench (N : Numerics K) : Setup K Unit where
  numerics := N
  scenario :=
    { sampleDimensions := ![10.0, 8.0, 6.0]
      frames :=
        [(txt "source", ⟨txt "world", ![0.0, 0.0, 0.0], ![0.0, 0.0, 0.0]⟩),
         (txt "sample", ⟨txt "world", ![0.0, 0.0, 0.0], ![0.0, 0.0, 0.0]⟩),
         (txt "needle", ⟨txt "world", ![-40.0, 0.0, 0.0], ![0.0, 0.0, 0.0]⟩),
         (txt "target", ⟨txt "world", ![90.0, 0.0, 0.0], ![0.0, 0.0, 0.0]⟩),
         (txt "coupon", ⟨txt "world", ![0.0, 70.0, 0.0], ![0.0, 0.0, 0.0]⟩),
         (txt "needle_approach", ⟨txt "sample", ![-8.0, 0.0, 0.0], ![0.0, 0.0, 0.0]⟩),
         (txt "target_pose", ⟨txt "target", ![0.0, 0.0, 0.0], ![0.0, 0.0, 0.0]⟩)]
      data :=
        [(txt "sample", .obj [(txt "source_bridge", .obj
          [(txt "frame", .str (txt "sample")),
           (txt "center_um", .arr [.int 0, .int 0, .int (-4)]),
           (txt "size_um", .arr [.int 4, .int 4, .int 2])])])] }
  runtime := obedient
  geometryHash _ := []

/-- The request for a pattern of a purpose at a place, as a cube of a size. -/
def request (operation purpose : String) (x y z size : Int) : Action :=
  .invoke (txt operation) [(txt "pattern", .obj
    [(txt "purpose", .str (txt purpose)), (txt "frame", .str (txt "sample")),
     (txt "center_um", .arr [.int x, .int y, .int z]),
     (txt "size_um", .arr [.int size, .int size, .int size]),
     (txt "rotation_degrees", .int 0)])]

end

/-- The C library where nothing is rotated. -/
def unrotated : Fibsem.Libm := ⟨fun _ => 1.0, fun _ => 0.0⟩

/-- What a run from a new backend says of its last state. -/
theorem exists_of_run {K ρ : Type} [Add K] [Sub K] [Neg K] [Mul K] [Div K] [LT K] [DecidableLT K]
    [LE K] [DecidableLE K] [OfScientific K] (setup : Setup K ρ) (runtime : ρ)
    (P : Backend K ρ → Prop) [DecidablePred P]
    (evaluates : ((Backend.new setup runtime).toOption.any fun b => decide (P b)) = true) :
    ∃ b, Backend.new setup runtime = .ok b ∧ P b := by
  cases made : Backend.new setup runtime with
  | error e =>
      rw [made] at evaluates
      cases evaluates
  | ok b =>
      rw [made] at evaluates
      exact ⟨b, rfl, of_decide_eq_true evaluates⟩

/-- A deposition called `sample_cut` as the first operation, and a cut through the
sample as the second. -/
def collision : List Action :=
  [request "run_deposition" "sample_cut" 0 0 20 2, request "run_cut" "trench" 0 0 0 2]

/-- They make two parts called `sample_cut_1`, and no snapshot of them is made. -/
theorem fragment_purpose_collides : ∃ b : Backend Float Unit,
    Backend.new (bench (doubles unrotated)) () = .ok b ∧
      ¬((run (bench (doubles unrotated)) b collision).parts.map MeshPart.name).Nodup ∧
        ∀ stepId snapshot, freezeSnapshot (bench (doubles unrotated))
          (run (bench (doubles unrotated)) b collision) stepId ≠ .ok snapshot := by
  obtain ⟨b, made, twice⟩ := exists_of_run (bench (doubles unrotated)) () (fun b =>
    ¬((run (bench (doubles unrotated)) b collision).parts.map MeshPart.name).Nodup)
    (by decide +kernel)
  exact ⟨b, made, twice, fun stepId snapshot frozen => twice (freezeSnapshot_ok frozen)⟩

/-- A lift-out up to the lift: two trenches, the needle joined, the source separated. -/
def prepared : List Action :=
  [request "run_cut" "trench" 4 0 0 2, request "run_cut" "trench" 4 2 0 2,
   .invoke (txt "insert_manipulator")
     [(txt "position_um", .arr [.int (-5), .int 0, .int 0]), (txt "relative", .bool false)],
   request "run_deposition" "needle_joint" (-5) 0 0 2,
   request "run_cut" "source_separation" 0 0 (-4) 2]

def lift : Action :=
  .invoke (txt "move_manipulator")
    [(txt "position_um", .arr [.int 0, .int 0, .int 30]), (txt "relative", .bool true)]

def liftOut : List Action := prepared ++ [lift, .forceSafe]

/-- The purpose of the deposition an action asks for. -/
def depositPurpose : Action → Option Text
  | .invoke operation arguments =>
      if operation = txt "run_deposition" then (patternOf arguments).toOption.map Prod.snd else none
  | _ => none

theorem depositPurpose_of_deposits {action : Action} {purpose : Text}
    (deposits : Deposits action purpose) : depositPurpose action = some purpose := by
  obtain ⟨arguments, pattern, rfl, asked⟩ := deposits
  rw [depositPurpose, if_pos rfl, asked]
  rfl

theorem deposits_liftOut : ∀ action ∈ liftOut, ∀ purpose, Deposits action purpose →
    purpose ∈ Fibsem.Microscope.DEPOSITION_PURPOSES := by
  have purposes : ∀ action ∈ liftOut, (depositPurpose action).all (fun purpose =>
      decide (purpose ∈ Fibsem.Microscope.DEPOSITION_PURPOSES)) = true := by decide
  intro action listed purpose deposits
  have allowed := purposes action listed
  rw [depositPurpose_of_deposits deposits] at allowed
  exact of_decide_eq_true allowed

/-- The names of a lift-out are distinct. -/
theorem part_names_unique_liftOut : ∃ b : Backend Float Unit,
    Backend.new (bench (doubles unrotated)) () = .ok b ∧
      ((run (bench (doubles unrotated)) b liftOut).parts.map MeshPart.name).Nodup := by
  obtain ⟨b, made, -⟩ := exists_of_run (bench (doubles unrotated)) () (fun _ => True)
    (by decide)
  refine ⟨b, made, (part_names_unique made liftOut ?_).1⟩
  intro action listed purpose deposits
  exact not_fragmentPurpose purpose (deposits_liftOut action listed purpose deposits)

end InstrumentBench.Geometry
