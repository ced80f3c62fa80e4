/-
# Geometry.Cutting -- cutting a part takes the cutter out and nothing else

`_subtract_bounds` returns the slabs of the source around what it shares with the
cutter, less those that are too thin (`subtractBounds_of_meets`).  `cutBox` and `thinSlabs`
name the slabs it keeps and drops.  The kept ones lie in the source, do not overlap each
other or the cutter, and cover the source apart from the cutter and the dropped slabs; so
do, after any sequence of cuts, the fragments of a part (`cutting`).
-/
import InstrumentBench.Geometry.Carriage
import InstrumentBench.Geometry.VoxelBlocks
import InstrumentBench.Theory.Boxes

namespace InstrumentBench.Geometry

set_option autoImplicit false
set_option linter.unusedSectionVars false

open InstrumentBench.Theory
open InstrumentBench.Fibsem (PyError)

section

variable {K ρ : Type} [Field K] [LinearOrder K] [IsStrictOrderedRing K] [FloorRing K]

/-! ## Bounds as boxes -/

namespace Bounds

def box (b : Bounds K) : Box 3 K := ⟨b.minimum, b.maximum, fun axis => not_lt.1 (b.ordered axis)⟩

def ofBox (b : Box 3 K) : Bounds K := ⟨b.low, b.high, fun axis => not_lt.2 (b.ordered axis)⟩

@[simp] theorem box_ofBox (b : Box 3 K) : (ofBox b).box = b := rfl

@[simp] theorem ofBox_box (b : Bounds K) : ofBox b.box = b := rfl

theorem new_ofBox (b : Box 3 K) : Bounds.new b.low b.high = .ok (ofBox b) :=
  dif_pos fun axis => not_lt.2 (b.ordered axis)

end Bounds

/-- A slab that the code drops. -/
def Thin (b : Box 3 K) : Prop := ∃ axis, b.high axis - b.low axis ≤ 1e-9

instance (b : Box 3 K) : Decidable (Thin b) := inferInstanceAs (Decidable (∃ _, _))

/-- A box the filter keeps is thick on every axis, and one it drops is thin on some. -/
theorem thin_iff (b : Box 3 K) : Thin b ↔ ¬1e-9 < leastOf (Bounds.ofBox b).size := by
  rw [lt_leastOf_iff]
  push Not
  exact Iff.rfl

/-! ## One subtraction -/

/-- The slabs of a source around what it shares with a cutter. -/
def slabsOf (source cutter : Bounds K) (meets : source.box.Meets cutter.box) : List (Box 3 K) :=
  Box.slabs source.box (Box.meet source.box cutter.box meets) (Box.meet_within_left meets)

/-- The corners the code writes down are those of the slabs. -/
theorem candidates_eq {b c : Box 3 K} (within : c.Within b) :
    ([(![b.low 0, b.low 1, b.low 2], ![c.low 0, b.high 1, b.high 2]),
      (![c.high 0, b.low 1, b.low 2], ![b.high 0, b.high 1, b.high 2]),
      (![c.low 0, b.low 1, b.low 2], ![c.high 0, c.low 1, b.high 2]),
      (![c.low 0, c.high 1, b.low 2], ![c.high 0, b.high 1, b.high 2]),
      (![c.low 0, c.low 1, b.low 2], ![c.high 0, c.high 1, c.low 2]),
      (![c.low 0, c.low 1, c.high 2], ![c.high 0, c.high 1, b.high 2])].mapM
        fun corners => Bounds.new corners.1 corners.2) =
      .ok ((Box.slabs b c within).map Bounds.ofBox) := by
  have corner {low high : Vec K} {axis : Fin 3} {after : Bool}
      (lows : low = (Box.slab b c within axis after).low)
      (highs : high = (Box.slab b c within axis after).high) :
      Bounds.new low high = .ok (Bounds.ofBox (Box.slab b c within axis after)) := by
    rw [lows, highs]
    exact Bounds.new_ofBox _
  have listed : Box.slabs b c within =
      [Box.slab b c within 0 false, Box.slab b c within 0 true, Box.slab b c within 1 false,
        Box.slab b c within 1 true, Box.slab b c within 2 false, Box.slab b c within 2 true] := rfl
  rw [mapM_ok_iff, listed]
  refine .cons (corner ?_ ?_) (.cons (corner ?_ ?_) (.cons (corner ?_ ?_) (.cons (corner ?_ ?_)
    (.cons (corner ?_ ?_) (.cons (corner ?_ ?_) .nil)))))
  all_goals
    funext axis
    fin_cases axis <;> rfl

theorem subtractBounds_of_meets {source cutter : Bounds K} (meets : source.box.Meets cutter.box) :
    subtractBounds source cutter =
      if Thin (Box.meet source.box cutter.box meets) then .ok [source]
      else .ok (((slabsOf source cutter meets).map Bounds.ofBox).filter fun b =>
        1e-9 < leastOf b.size) := by
  have shared : Bounds.new (fun axis => pyMax (source.minimum axis) (cutter.minimum axis))
      (fun axis => pyMin (source.maximum axis) (cutter.maximum axis)) =
      .ok (Bounds.ofBox (Box.meet source.box cutter.box meets)) := by
    simp only [pyMax_eq, pyMin_eq]
    exact Bounds.new_ofBox (Box.meet source.box cutter.box meets)
  unfold subtractBounds
  rw [shared]
  dsimp only [bind, Except.bind]
  refine if_congr Iff.rfl rfl ?_
  have candidates := candidates_eq (Box.meet_within_left meets)
  have named : (fun corners : Vec K × Vec K => Bounds.new corners.1 corners.2) =
    fun corners => Bounds.new corners.1 corners.2 := rfl
  exact (congrArg (fun made => made >>= fun boxes : List (Bounds K) =>
    Except.ok (boxes.filter fun b => 1e-9 < leastOf b.size)) candidates).trans rfl

/-- `s` is one of the six slabs of a box around what it shares with a cutter. -/
def Candidate (cutter : Bounds K) (b s : Box 3 K) : Prop :=
  ∃ meets : b.Meets cutter.box, s ∈ Box.slabs b (Box.meet b cutter.box meets) (Box.meet_within_left meets)

instance (b c : Box 3 K) : Decidable (b.Meets c) := inferInstanceAs (Decidable (∀ _, _))

/-- What is left of a box: the slabs that are not thin, or the box where the cutter takes
no more than a thin part of it. -/
def cutBox (cutter : Bounds K) (b : Box 3 K) : List (Box 3 K) :=
  if meets : b.Meets cutter.box then
    if Thin (Box.meet b cutter.box meets) then [b]
    else (Box.slabs b _ (Box.meet_within_left meets)).filter fun s => ¬Thin s
  else [b]

/-- The slabs that are lost: those of a cut that are thin. -/
def thinSlabs (cutter : Bounds K) (b : Box 3 K) : List (Box 3 K) :=
  if meets : b.Meets cutter.box then
    if Thin (Box.meet b cutter.box meets) then []
    else (Box.slabs b _ (Box.meet_within_left meets)).filter fun s => Thin s
  else []

theorem cutBox_of_thick {cutter : Bounds K} {b : Box 3 K} (meets : b.Meets cutter.box)
    (thick : ¬Thin (Box.meet b cutter.box meets)) :
    cutBox cutter b = (Box.slabs b _ (Box.meet_within_left meets)).filter (fun s => ¬Thin s) ∧
      thinSlabs cutter b = (Box.slabs b _ (Box.meet_within_left meets)).filter fun s => Thin s := by
  rw [cutBox, thinSlabs, dif_pos meets, dif_pos meets, if_neg thick, if_neg thick]
  exact ⟨rfl, rfl⟩

theorem cutBox_of_thin {cutter : Bounds K} {b : Box 3 K}
    (slight : ∀ meets : b.Meets cutter.box, Thin (Box.meet b cutter.box meets)) :
    cutBox cutter b = [b] ∧ thinSlabs cutter b = [] := by
  rw [cutBox, thinSlabs]
  split
  case isTrue meets =>
    rw [if_pos (slight meets), if_pos (slight meets)]
    exact ⟨rfl, rfl⟩
  case isFalse => exact ⟨rfl, rfl⟩

theorem mem_thinSlabs {cutter : Bounds K} {b s : Box 3 K} (member : s ∈ thinSlabs cutter b) :
    Thin s ∧ Candidate cutter b s := by
  by_cases slight : ∀ meets : b.Meets cutter.box, Thin (Box.meet b cutter.box meets)
  · rw [(cutBox_of_thin slight).2] at member
    cases member
  · obtain ⟨meets, thick⟩ := not_forall.1 slight
    rw [(cutBox_of_thick meets thick).2, List.mem_filter] at member
    exact ⟨of_decide_eq_true member.2, meets, member.1⟩

/-- The kept and the dropped slabs and the shared box cover the source. -/
theorem cutBox_covers {cutter : Bounds K} {b : Box 3 K} (meets : b.Meets cutter.box)
    (thick : ¬Thin (Box.meet b cutter.box meets)) {x : Vec K} (holds : b.Holds x) :
    (∃ s ∈ cutBox cutter b ++ thinSlabs cutter b, s.Holds x) ∨
      (Box.meet b cutter.box meets).Holds x := by
  obtain ⟨kept, dropped⟩ := cutBox_of_thick meets thick
  rcases Box.cover (Box.meet_within_left meets) holds with shared | ⟨s, listed, here⟩
  · exact Or.inr shared
  · refine Or.inl ⟨s, ?_, here⟩
    rw [kept, dropped, List.mem_append, List.mem_filter, List.mem_filter]
    by_cases thin : Thin s
    · exact Or.inr ⟨listed, decide_eq_true thin⟩
    · exact Or.inl ⟨listed, decide_eq_true thin⟩

/-- **What a cut leaves of a box are pieces of it**, less the cutter and thin slabs. -/
theorem pieces_cutBox (cutter : Bounds K) (b : Box 3 K) :
    Box.Pieces b (cutter.box :: thinSlabs cutter b) (cutBox cutter b) := by
  by_cases slight : ∀ meets : b.Meets cutter.box, Thin (Box.meet b cutter.box meets)
  · rw [(cutBox_of_thin slight).1]
    exact (Box.Pieces.whole b).mono (List.nil_subset _)
  · obtain ⟨meets, thick⟩ := not_forall.1 slight
    obtain ⟨kept, -⟩ := cutBox_of_thick meets thick
    refine ⟨?_, ?_, ?_⟩
    · intro s member
      rw [kept, List.mem_filter] at member
      obtain ⟨axis, after, rfl⟩ := Box.mem_slabs.1 member.1
      exact Box.slab_within _ axis after
    · rw [kept]
      exact (Box.slabs_disjoint (Box.meet_within_left meets)).filter _
    · intro x holds
      rcases cutBox_covers meets thick holds with ⟨s, member, here⟩ | shared
      · rcases List.mem_append.1 member with left | dropped
        · exact Or.inl ⟨s, left, here⟩
        · exact Or.inr ⟨s, List.mem_cons_of_mem _ dropped, here⟩
      · exact Or.inr ⟨cutter.box, List.mem_cons_self, (Box.meet_within_right meets).holds shared⟩

/-- What is kept of a thick cut is thick and clear of the cutter. -/
theorem kept_of_thick {cutter : Bounds K} {b s : Box 3 K} (meets : b.Meets cutter.box)
    (thick : ¬Thin (Box.meet b cutter.box meets)) (member : s ∈ cutBox cutter b) :
    ¬Thin s ∧ s.Disjoint cutter.box := by
  rw [(cutBox_of_thick meets thick).1, List.mem_filter] at member
  obtain ⟨axis, after, rfl⟩ := Box.mem_slabs.1 member.1
  exact ⟨of_decide_eq_true member.2, Box.slab_disjoint_of_meet meets axis after⟩

/-- **`_subtract_bounds` keeps what is left of the box.** -/
theorem subtractBounds_eq {source cutter : Bounds K} (meets : source.box.Meets cutter.box) :
    subtractBounds source cutter = .ok ((cutBox cutter source.box).map Bounds.ofBox) := by
  rw [subtractBounds_of_meets meets]
  by_cases thin : Thin (Box.meet source.box cutter.box meets)
  · rw [if_pos thin, (cutBox_of_thin fun _ => thin).1]
    rfl
  · rw [if_neg thin, (cutBox_of_thick meets thin).1, List.filter_map]
    congr 2
    refine List.filter_congr fun b _ => ?_
    rw [Function.comp_apply, decide_eq_decide, thin_iff, not_not]

/-- Boxes that do not meet are refused. -/
theorem subtractBounds_of_apart {source cutter : Bounds K}
    (apart : ¬source.box.Meets cutter.box) :
    subtractBounds source cutter = PyError.value "bounds maximum is below minimum" := by
  have inverted : ¬∀ axis, ¬pyMin (source.maximum axis) (cutter.maximum axis) <
      pyMax (source.minimum axis) (cutter.minimum axis) := by
    intro ordered
    apply apart
    intro axis
    have here := not_lt.1 (ordered axis)
    rw [pyMax_eq, pyMin_eq, max_le_iff, le_min_iff, le_min_iff] at here
    exact ⟨here.1.2, here.2.1⟩
  unfold subtractBounds Bounds.new
  rw [dif_neg inverted]
  rfl

/-! ## Cuts of a part -/

/-- `_cut_sample` -/
def cutSample (setup : Setup K ρ) (cutter : Bounds K) (parts : List (MeshPart K)) :
    Except PyError (List (MeshPart K)) :=
  (parts.mapM (cutPart setup cutter)).map List.flatten

/-- `_cut_sample` of one cutter after the other. -/
def cutAll (setup : Setup K ρ) : List (Bounds K) → List (MeshPart K) →
    Except PyError (List (MeshPart K))
  | [], parts => .ok parts
  | cutter :: rest, parts => do
      let parts ← cutSample setup cutter parts
      cutAll setup rest parts

/-- The cuts of a trench, a polish and a U-cut are these. -/
theorem cutParts_eq_cutSample (setup : Setup K ρ) {purpose : Text}
    (cuts : purpose ∈ [txt "trench", txt "polish", txt "u_cut"]) (cutter : Bounds K)
    (parts : List (MeshPart K)) :
    cutParts setup purpose cutter parts = cutSample setup cutter parts := by
  have others : purpose ≠ txt "source_separation" ∧ purpose ≠ txt "needle_separation" := by
    simp only [List.mem_cons, List.not_mem_nil, or_false] at cuts
    rcases cuts with rfl | rfl | rfl <;> decide
  unfold cutParts
  rw [if_neg others.1, if_neg others.2, if_pos cuts]
  rfl

/-- A sample part whose mesh fills a solid box. -/
structure Fills (p : MeshPart K) (b : Box 3 K) : Prop where
  role : p.role = .sample
  bounds : p.mesh.bounds = .ok (Bounds.ofBox b)
  solid : ∀ axis, b.low axis < b.high axis

theorem cornerMesh_bounds (b : Box 3 K) :
    (cornerMesh b.low b.high).bounds = .ok (Bounds.ofBox b) := by
  have low := b.ordered
  have box : (fun axis => least ((cornerMesh b.low b.high).vertices
        (cornerMesh b.low b.high).first axis)
        ((cornerMesh b.low b.high).coordinates axis).tail) = b.low ∧
      (fun axis => greatest ((cornerMesh b.low b.high).vertices
        (cornerMesh b.low b.high).first axis)
        ((cornerMesh b.low b.high).coordinates axis).tail) = b.high := by
    have zero := low 0
    have one := low 1
    have two := low 2
    constructor
    · funext axis
      fin_cases axis <;>
        simp [least, TriangleMesh.coordinates, TriangleMesh.first, cornerMesh, List.ofFn_succ,
          pyMin_eq, zero, one, two]
    · funext axis
      fin_cases axis <;>
        simp [greatest, TriangleMesh.coordinates, TriangleMesh.first, cornerMesh, List.ofFn_succ,
          pyMax_eq, zero, one, two]
  unfold TriangleMesh.bounds
  rw [box.1, box.2]
  exact Bounds.new_ofBox b

variable {setup : Setup K ρ}

/-- A solid box can be built from its center and its size. -/
theorem boxMesh_of_solid (exact : ∀ x, setup.numerics.isFinite x = true) {b : Box 3 K}
    (solid : ∀ axis, b.low axis < b.high axis) :
    boxMesh setup.numerics (Bounds.ofBox b).center (Bounds.ofBox b).size =
      .ok (cornerMesh b.low b.high) := by
  have positive : ¬leastOf (Bounds.ofBox b).size ≤ 0.0 := by
    have sizes : ∀ axis, 0 < (Bounds.ofBox b).size axis := fun axis => sub_pos.2 (solid axis)
    norm_num
    show 0 < pyMin (pyMin _ _) _
    rw [pyMin_eq, pyMin_eq]
    exact lt_min (lt_min (sizes 0) (sizes 1)) (sizes 2)
  have corners : (fun axis => (Bounds.ofBox b).center axis - (Bounds.ofBox b).size axis / 2.0) =
      b.low ∧
      (fun axis => (Bounds.ofBox b).center axis + (Bounds.ofBox b).size axis / 2.0) = b.high := by
    constructor
    · funext axis
      show (b.low axis + b.high axis) / 2.0 - (b.high axis - b.low axis) / 2.0 = b.low axis
      norm_num
      ring
    · funext axis
      show (b.low axis + b.high axis) / 2.0 + (b.high axis - b.low axis) / 2.0 = b.high axis
      norm_num
      ring
  unfold boxMesh finiteVec
  rw [if_pos fun axis => exact _, if_pos fun axis => exact _]
  dsimp only [bind, Except.bind]
  rw [if_neg positive, corners.1, corners.2]
  exact if_pos fun i axis => exact _

theorem fragment_fills (exact : ∀ x, setup.numerics.isFinite x = true) (part : MeshPart K)
    (index : Nat) {b : Box 3 K} (solid : ∀ axis, b.low axis < b.high axis) :
    ∃ p, fragment setup part index (Bounds.ofBox b) = .ok p ∧ Fills p b := by
  have named : part.name ++ txt "_cut_" ++ decimal index ≠ [] := by simp [txt]
  have purposed : (Role.sample = .deposition → (none : Option Text).getD [] ≠ []) := by
    intro same
    cases same
  refine ⟨⟨part.name ++ txt "_cut_" ++ decimal index, .sample, cornerMesh b.low b.high, none, named,
    purposed⟩, ?_, rfl, cornerMesh_bounds b, solid⟩
  unfold fragment
  rw [boxMesh_of_solid exact solid]
  dsimp only [bind, Except.bind]
  unfold MeshPart.new
  rw [dif_pos named, dif_pos purposed]

theorem overlaps_iff (b c : Bounds K) : b.overlaps c ↔ b.box.Meets c.box := by
  unfold Bounds.overlaps Box.Meets
  norm_num
  rfl

/-- **One cut of one part.** -/
theorem cutPart_fills (exact : ∀ x, setup.numerics.isFinite x = true) (cutter : Bounds K)
    {part : MeshPart K} {b : Box 3 K} (fills : Fills part b) :
    ∃ fragments, cutPart setup cutter part = .ok fragments ∧
      List.Forall₂ Fills fragments (cutBox cutter b) := by
  unfold cutPart
  rw [if_neg (not_not.2 fills.role), fills.bounds]
  dsimp only [bind, Except.bind]
  by_cases meets : (Bounds.ofBox b).overlaps cutter
  · rw [if_neg (not_not.2 meets), subtractBounds_eq ((overlaps_iff _ _).1 meets)]
    dsimp only [Bounds.box_ofBox]
    have solid : ∀ c ∈ cutBox cutter b, ∀ axis, c.low axis < c.high axis := by
      intro c member axis
      by_cases thin : ∀ meets : b.Meets cutter.box, Thin (Box.meet b cutter.box meets)
      · rw [(cutBox_of_thin thin).1, List.mem_singleton] at member
        rw [member]
        exact fills.solid axis
      · obtain ⟨meets, thick⟩ := not_forall.1 thin
        have wide := not_exists.1 (kept_of_thick meets thick member).1 axis
        have positive : (0 : K) < 1e-9 := by norm_num
        exact sub_pos.1 (positive.trans (not_le.1 wide))
    have built : ∀ kept : List (Box 3 K), (∀ c ∈ kept, ∀ axis, c.low axis < c.high axis) →
        ∀ n, ∃ fragments, ((kept.map Bounds.ofBox).zipIdx n).mapM
          (fun piece => fragment setup part piece.2 piece.1) = .ok fragments ∧
            List.Forall₂ Fills fragments kept := by
      intro kept
      induction kept with
      | nil => exact fun _ n => ⟨[], rfl, .nil⟩
      | cons c rest ih =>
          intro solid n
          obtain ⟨p, here, fill⟩ := fragment_fills exact part n (solid c List.mem_cons_self)
          obtain ⟨others, later, fills⟩ :=
            ih (fun d member => solid d (List.mem_cons_of_mem _ member)) (n + 1)
          refine ⟨p :: others, ?_, .cons fill fills⟩
          rw [mapM_ok_iff] at later ⊢
          exact .cons here later
    exact built _ solid 1
  · rw [if_pos meets]
    have apart : ¬b.Meets cutter.box := fun here => meets ((overlaps_iff _ _).2 here)
    rw [(cutBox_of_thin fun here => absurd here apart).1]
    exact ⟨[part], rfl, .cons fills .nil⟩

/-- **One cut of every part.** -/
theorem cutSample_fills (exact : ∀ x, setup.numerics.isFinite x = true) (cutter : Bounds K)
    {parts : List (MeshPart K)} {pieces : List (Box 3 K)} (fill : List.Forall₂ Fills parts pieces) :
    ∃ fragments, cutSample setup cutter parts = .ok fragments ∧
      List.Forall₂ Fills fragments (pieces.flatMap (cutBox cutter)) := by
  have loop : ∃ fragments, parts.mapM (cutPart setup cutter) = .ok fragments ∧
      List.Forall₂ (List.Forall₂ Fills) fragments (pieces.map (cutBox cutter)) := by
    induction fill with
    | nil => exact ⟨[], rfl, .nil⟩
    | cons here _ ih =>
        obtain ⟨fragments, ran, filled⟩ := cutPart_fills exact cutter here
        obtain ⟨others, later, fills⟩ := ih
        refine ⟨fragments :: others, ?_, .cons filled fills⟩
        rw [mapM_ok_iff] at later ⊢
        exact .cons ran later
  obtain ⟨fragments, ran, filled⟩ := loop
  refine ⟨fragments.flatten, ?_, List.rel_flatten filled⟩
  unfold cutSample
  rw [ran]
  rfl

/-- What is left of boxes after cuts, one after the other. -/
def cutBoxes : List (Bounds K) → List (Box 3 K) → List (Box 3 K)
  | [], pieces => pieces
  | cutter :: rest, pieces => cutBoxes rest (pieces.flatMap (cutBox cutter))

/-- The slabs that are lost on the way. -/
def lostSlabs : List (Bounds K) → List (Box 3 K) → List (Box 3 K)
  | [], _ => []
  | cutter :: rest, pieces =>
      pieces.flatMap (thinSlabs cutter) ++ lostSlabs rest (pieces.flatMap (cutBox cutter))

/-- **Any number of cuts.** -/
theorem cutAll_fills (exact : ∀ x, setup.numerics.isFinite x = true) (cutters : List (Bounds K))
    {parts : List (MeshPart K)} {pieces : List (Box 3 K)}
    (fill : List.Forall₂ Fills parts pieces) :
    ∃ fragments, cutAll setup cutters parts = .ok fragments ∧
      List.Forall₂ Fills fragments (cutBoxes cutters pieces) := by
  induction cutters generalizing parts pieces with
  | nil => exact ⟨parts, rfl, fill⟩
  | cons cutter rest ih =>
      obtain ⟨fragments, ran, filled⟩ := cutSample_fills exact cutter fill
      obtain ⟨last, later, fills⟩ := ih filled
      refine ⟨last, ?_, fills⟩
      unfold cutAll
      rw [ran]
      exact later

theorem pieces_flatMap (cutter : Bounds K) (pieces : List (Box 3 K)) :
    List.Forall₂ (fun piece part =>
      Box.Pieces piece (cutter.box :: pieces.flatMap (thinSlabs cutter)) part) pieces
        (pieces.map (cutBox cutter)) := by
  rw [List.forall₂_map_right_iff, List.forall₂_same]
  intro piece member
  refine (pieces_cutBox cutter piece).mono (List.cons_subset_cons _ fun s lost => ?_)
  exact List.mem_flatMap.2 ⟨piece, member, lost⟩

/-- **After any cuts what is left are pieces**, less the cutters and the lost slabs. -/
theorem pieces_cutBoxes (cutters : List (Bounds K)) {whole : Box 3 K}
    {removed pieces : List (Box 3 K)} (cut : Box.Pieces whole removed pieces) :
    Box.Pieces whole (removed ++ cutters.map Bounds.box ++ lostSlabs cutters pieces)
      (cutBoxes cutters pieces) := by
  induction cutters generalizing removed pieces with
  | nil => exact cut.mono (by simp)
  | cons cutter rest ih =>
      refine (ih (cut.flatten (pieces_flatMap cutter pieces))).mono ?_
      intro s member
      simp only [lostSlabs, List.mem_append, List.mem_cons, List.map_cons] at member ⊢
      tauto

/-- A lost slab is a thin one of the six of some cut of some piece. -/
theorem mem_lostSlabs {cutters : List (Bounds K)} {pieces : List (Box 3 K)} {s : Box 3 K}
    (member : s ∈ lostSlabs cutters pieces) : Thin s ∧ ∃ before cutter after,
      cutters = before ++ cutter :: after ∧ ∃ b ∈ cutBoxes before pieces, Candidate cutter b s := by
  induction cutters generalizing pieces with
  | nil => cases member
  | cons cutter rest ih =>
      rw [lostSlabs, List.mem_append, List.mem_flatMap] at member
      rcases member with ⟨b, listed, lost⟩ | later
      · obtain ⟨thin, candidate⟩ := mem_thinSlabs lost
        exact ⟨thin, [], cutter, rest, rfl, b, listed, candidate⟩
      · obtain ⟨thin, before, other, after, rfl, b, listed, candidate⟩ := ih later
        exact ⟨thin, cutter :: before, other, after, rfl, b, listed, candidate⟩

/-- A box the code makes fills its bounds. -/
theorem fills_of_boxMesh {part : MeshPart K} {center size : Vec K} (role : part.role = .sample)
    (made : boxMesh setup.numerics center size = .ok part.mesh) : ∃ b, Fills part b := by
  obtain ⟨block, mesh⟩ := boxMesh_block made
  refine ⟨⟨block.low, block.high, fun axis => (block.solid axis).le⟩, role, ?_, block.solid⟩
  rw [mesh]
  exact cornerMesh_bounds ⟨block.low, block.high, fun axis => (block.solid axis).le⟩

/-- The boxes share more than the tolerance on every axis. -/
def Thick (source cutter : Bounds K) : Prop :=
  ∀ axis, 1e-9 < min (source.maximum axis) (cutter.maximum axis) -
    max (source.minimum axis) (cutter.minimum axis)

/-- **Cutting is a partition.**  A cut keeps slabs of the source that overlap neither each
other nor the cutter, and of the six slabs around what they share drops only thin ones; a
cutter that shares less is ignored, and one that does not meet the source is refused.  The
fragments of a part after any cuts overlap nowhere, stay in the part, and lose only the
cutters and, of the six slabs of each cut of each piece, thin ones. -/
theorem cutting (exact : ∀ x, setup.numerics.isFinite x = true) (source cutter : Bounds K)
    (part : MeshPart K) {center size : Vec K} (role : part.role = .sample)
    (made : boxMesh setup.numerics center size = .ok part.mesh) (cutters : List (Bounds K)) :
    (Thick source cutter →
      ∃ kept dropped : List (Box 3 K), subtractBounds source cutter = .ok (kept.map Bounds.ofBox) ∧
        (∀ s ∈ dropped, Thin s ∧ Candidate cutter source.box s) ∧
        (∀ b ∈ kept, b.Within source.box ∧ b.Disjoint cutter.box) ∧
        kept.Pairwise Box.Disjoint ∧
        ∀ x, source.box.Holds x → (∀ axis, max (source.minimum axis) (cutter.minimum axis) ≤ x axis ∧
            x axis ≤ min (source.maximum axis) (cutter.maximum axis)) ∨
          ∃ b ∈ kept ++ dropped, b.Holds x) ∧
    (source.box.Meets cutter.box → ¬Thick source cutter →
      subtractBounds source cutter = .ok [source]) ∧
    (¬source.box.Meets cutter.box →
      subtractBounds source cutter = PyError.value "bounds maximum is below minimum") ∧
    ∃ (whole : Box 3 K) (fragments : List (MeshPart K)),
      part.mesh.bounds = .ok (Bounds.ofBox whole) ∧ cutAll setup cutters [part] = .ok fragments ∧
      List.Forall₂ (fun fragment b => fragment.mesh.bounds = .ok (Bounds.ofBox b)) fragments
        (cutBoxes cutters [whole]) ∧
      (∀ s ∈ lostSlabs cutters [whole], Thin s ∧ ∃ before cutter after,
        cutters = before ++ cutter :: after ∧
          ∃ b ∈ cutBoxes before [whole], Candidate cutter b s) ∧
      Box.Pieces whole (cutters.map Bounds.box ++ lostSlabs cutters [whole])
        (cutBoxes cutters [whole]) := by
  have thick_iff (meets : source.box.Meets cutter.box) :
      Thick source cutter ↔ ¬Thin (Box.meet source.box cutter.box meets) := by
    unfold Thick Thin
    push Not
    rfl
  refine ⟨?_, ?_, subtractBounds_of_apart, ?_⟩
  · intro thick
    have positive : (0 : K) < 1e-9 := by norm_num
    have meets : source.box.Meets cutter.box := by
      intro axis
      have shared := sub_pos.1 (positive.trans (thick axis))
      rw [max_lt_iff, lt_min_iff, lt_min_iff] at shared
      exact ⟨shared.1.2.le, shared.2.1.le⟩
    have wide := (thick_iff meets).1 thick
    have pieces := pieces_cutBox cutter source.box
    refine ⟨cutBox cutter source.box, thinSlabs cutter source.box, subtractBounds_eq meets,
      fun s => mem_thinSlabs,
      fun b member => ⟨pieces.within b member, (kept_of_thick meets wide member).2⟩,
      pieces.disjoint, ?_⟩
    intro x holds
    exact (cutBox_covers meets wide holds).symm
  · intro meets slight
    rw [thick_iff meets, not_not] at slight
    rw [subtractBounds_eq meets, (cutBox_of_thin fun _ => slight).1]
    rfl
  · obtain ⟨whole, fills⟩ := fills_of_boxMesh role made
    obtain ⟨fragments, ran, filled⟩ := cutAll_fills exact cutters (.cons fills .nil)
    have pieces := pieces_cutBoxes cutters (Box.Pieces.whole whole)
    rw [List.nil_append] at pieces
    exact ⟨whole, fragments, fills.bounds, ran, filled.imp fun p b fill => fill.bounds,
      fun s => mem_lostSlabs, pieces⟩

/-! ## A cube -/

/-- A cube of the sample. -/
def cubePart : MeshPart ℚ where
  name := txt "sample"
  role := .sample
  mesh := cornerMesh ![-1, -1, -1] ![1, 1, 1]
  purpose := none
  named := named_sample
  purposed := nofun

def cubeBounds : Bounds ℚ := ⟨![-1, -1, -1], ![1, 1, 1], by decide⟩

def cornerCut : Bounds ℚ := ⟨![0, 0, 0], ![2, 2, 2], by decide⟩

def farBox : Bounds ℚ := ⟨![5, 0, 0], ![6, 1, 1], by decide⟩

/-- A corner is cut off a cube, and then a bit more. -/
theorem cutting_corner :
    (∃ kept dropped : List (Box 3 ℚ),
      subtractBounds cubeBounds cornerCut = .ok (kept.map Bounds.ofBox) ∧
        (∀ s ∈ dropped, Thin s ∧ Candidate cornerCut cubeBounds.box s) ∧
        (∀ b ∈ kept, b.Within cubeBounds.box ∧ b.Disjoint cornerCut.box) ∧
        kept.Pairwise Box.Disjoint ∧
        ∀ x, cubeBounds.box.Holds x →
          (∀ axis, max (cubeBounds.minimum axis) (cornerCut.minimum axis) ≤ x axis ∧
            x axis ≤ min (cubeBounds.maximum axis) (cornerCut.maximum axis)) ∨
          ∃ b ∈ kept ++ dropped, b.Holds x) ∧
    ∃ (whole : Box 3 ℚ) (fragments : List (MeshPart ℚ)),
      cubePart.mesh.bounds = .ok (Bounds.ofBox whole) ∧
      cutAll (bench integral) [cornerCut, twoCubes] [cubePart] = .ok fragments ∧
      List.Forall₂ (fun fragment b => fragment.mesh.bounds = .ok (Bounds.ofBox b)) fragments
        (cutBoxes [cornerCut, twoCubes] [whole]) ∧
      (∀ s ∈ lostSlabs [cornerCut, twoCubes] [whole], Thin s ∧ ∃ before cutter after,
        [cornerCut, twoCubes] = before ++ cutter :: after ∧
          ∃ b ∈ cutBoxes before [whole], Candidate cutter b s) ∧
      Box.Pieces whole
        ([cornerCut, twoCubes].map Bounds.box ++ lostSlabs [cornerCut, twoCubes] [whole])
        (cutBoxes [cornerCut, twoCubes] [whole]) := by
  have cube : boxMesh (bench integral).numerics cubeBounds.center cubeBounds.size =
      .ok cubePart.mesh :=
    boxMesh_of_solid (b := cubeBounds.box) (fun _ => rfl) (by decide)
  have exact : ∀ x, (bench integral).numerics.isFinite x = true := fun _ => rfl
  obtain ⟨once, -, -, run⟩ := cutting exact cubeBounds cornerCut cubePart rfl cube
    [cornerCut, twoCubes]
  refine ⟨once ?_, run⟩
  intro axis
  revert axis
  decide +kernel

/-- **A cutter beside the source is refused**, where the source is not returned. -/
theorem far_cutter_refused : ¬Thick cornerCut farBox ∧
    subtractBounds cornerCut farBox = PyError.value "bounds maximum is below minimum" := by
  constructor
  · intro thick
    have first := thick 0
    revert first
    decide +kernel
  · apply subtractBounds_of_apart
    intro meets
    have first := meets 0
    revert first
    decide

end

end InstrumentBench.Geometry
