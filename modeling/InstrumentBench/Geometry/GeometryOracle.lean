/-
# Geometry.GeometryOracle -- the metrics of a scene

`GeometryOracle`: which parts of a scene touch, what hangs together, how large the
sections of the joints are, and how far the sample and the needle are from where they
belong.  The numbers are exact.  Sets are gone through in any order.

The contact graph as a graph (`touching`): the walks of the oracle see what it connects
(`rolesConnected_iff`, `sampleComponentVolumes_eq`).  A permutation of the parts renames
its vertices, sorts the same records and meets the same contacts, the best of which is
determined by its section (`jointSection_perm`), so that every metric stays
(`metrics_of_contacts`).
-/
import InstrumentBench.Geometry.Backend
import InstrumentBench.Geometry.Connectivity
import InstrumentBench.Theory.PyText
import InstrumentBench.Theory.Sha256
import InstrumentBench.Theory.Worklist
import Mathlib.Algebra.BigOperators.Group.Finset.Basic
import Mathlib.Data.List.Lex
import Mathlib.Data.List.NodupEquivFin

namespace InstrumentBench.Geometry

set_option autoImplicit false
set_option linter.unusedSectionVars false

open InstrumentBench.Theory
open InstrumentBench.Fibsem (PyError)

/-- What the oracle asks of exact numbers beside the operators. -/
structure Exact (K : Type) extends Numerics K where
  sqrt : K → K
  /-- `x ** (1.0 / 3.0)` -/
  cuberoot : K → K
  /-- `json.dumps` of a number. -/
  numeral : K → Text

def PURPOSE_PHASES : List (Text × Text) :=
  [(txt "preflight_cut", txt "preflight"), (txt "preflight_deposition", txt "preflight"),
   (txt "protection", txt "step_1"), (txt "trench", txt "step_1"), (txt "polish", txt "step_1"),
   (txt "u_cut", txt "step_1"), (txt "needle_joint", txt "step_2"),
   (txt "source_separation", txt "step_2"), (txt "target_joint", txt "step_3"),
   (txt "needle_separation", txt "step_4")]

/-- The role as its text. -/
def Role.text : Role → Text
  | .source => txt "source"
  | .sample => txt "sample"
  | .needle => txt "needle"
  | .target => txt "target"
  | .deposition => txt "deposition"
  | .coupon => txt "coupon"

section

variable {K : Type} [Field K] [LinearOrder K] [IsStrictOrderedRing K] [FloorRing K]

def INVALID_DISTANCE_UM : K := 1.0e12

/-- `AdaptiveTolerances` -/
structure AdaptiveTolerances (K : Type) [Zero K] [LT K] where
  characteristicLength : K
  position : K
  jointScale : K
  orientation : K
  safeRetraction : K
  joint_pos : 0 < jointScale

/-- `AdaptiveTolerances.from_dimensions` -/
def AdaptiveTolerances.fromDimensions (E : Exact K) (dimensions : Vec K) :
    Except PyError (AdaptiveTolerances K) :=
  if leastOf dimensions ≤ 0 then PyError.value "sample dimensions must be positive"
  else
    let length := E.cuberoot (prod dimensions)
    .ok
      { characteristicLength := length
        position := min (max (0.08 * length) 0.5) 2.0
        jointScale := min (max (0.03 * length) 0.2) 1.0
        orientation := 5.0
        safeRetraction := min (max (0.50 * length) 5.0) 20.0
        joint_pos := lt_min (lt_max_of_lt_right (by norm_num)) (by norm_num) }

/-- `GeometryMetrics` -/
structure GeometryMetrics (K : Type) where
  sampleToSource : Bool
  sampleToNeedle : Bool
  sampleToTarget : Bool
  needleJointSection : K
  targetJointSection : K
  sampleComponentCount : Nat
  totalSampleFraction : K
  retainedSampleFraction : K
  samplePositionError : K
  sampleOrientationError : K
  sampleIntegrityStep1 : Bool
  sampleIntegrityFinal : Bool
  changesWithinWorkEnvelopes : Bool
  envelopeViolations : List Text
  needleRetractionDistance : K
  needleSafelyRetracted : Bool
  collision : Bool
  simulatorIdle : Bool
  canonicalGeometryHash : Text

/-- `GeometryOracle` -/
structure GeometryOracle (K : Type) [Zero K] [LT K] where
  scenario : ScenarioSpec K
  tolerances : AdaptiveTolerances K

/-! ## Text of a geometry -/

/-- A JSON array of written items. -/
def jsonArray (items : List Text) : Text :=
  txt "[" ++ (items.intersperse (txt ",")).flatten ++ txt "]"

/-- A vertex to six decimals. -/
def roundedVertex (v : Vec K) : Triple K := ⟨roundTo 6 (v 0), roundTo 6 (v 1), roundTo 6 (v 2)⟩

/-- The rounded vertices of a triangle, in order. -/
def roundedTriangle (t : Triple (Vec K)) : List (Triple K) :=
  (t.toList.map roundedVertex).insertionSort (· ≤ ·)

/-- The rounded triangles of a mesh, in order. -/
def roundedTriangles (mesh : TriangleMesh K) : List (List (Triple K)) :=
  (mesh.triangles.map roundedTriangle).insertionSort (· ≤ ·)

/-- `json.dumps` of one record, its keys sorted. -/
def recordText (E : Exact K) (part : MeshPart K) : Text :=
  txt "\x7b\"name\":" ++ Json.renderText part.name ++
    txt ",\"purpose\":" ++ (match part.purpose with
      | none => txt "null"
      | some purpose => Json.renderText purpose) ++
    txt ",\"role\":" ++ Json.renderText part.role.text ++
    txt ",\"triangles\":" ++
    jsonArray ((roundedTriangles part.mesh).map fun vertices =>
      jsonArray (vertices.map fun v => jsonArray (v.toList.map E.numeral))) ++ txt "\x7d"

/-- What the parts are sorted by. -/
def sortKey (part : MeshPart K) : Triple Text := ⟨part.role.text, part.name, part.purpose.getD []⟩

/-- `_canonical_geometry_hash` -/
def canonicalGeometryHash (E : Exact K) (parts : List (MeshPart K)) : Text :=
  hexdigest (PyText.encodeUtf8 (jsonArray
    ((parts.insertionSort fun p q => sortKey p ≤ sortKey q).map (recordText E))))

/-- `max(values, default=0.0)` -/
def principal : List K → K
  | [] => 0
  | first :: rest => greatest first rest

/-- `_angle_delta` -/
def angleDelta (actual expected : K) : K :=
  let turned := actual - expected + 180
  turned - 360 * ⌊turned / 360⌋ - 180

namespace GeometryOracle

/-- `GeometryOracle(scenario)` -/
def new (E : Exact K) (scenario : ScenarioSpec K) : Except PyError (GeometryOracle K) := do
  let tolerances ← AdaptiveTolerances.fromDimensions E scenario.sampleDimensions
  .ok ⟨scenario, tolerances⟩

variable (E : Exact K) (o : GeometryOracle K)

/-- `epsilon_um` -/
def epsilon : K := min 0.05 (o.tolerances.jointScale * 0.20)

theorem epsilon_nonneg : 0 ≤ o.epsilon :=
  le_min (by norm_num) (mul_nonneg o.tolerances.joint_pos.le (by norm_num))

/-- The thresholds of the contact graph. -/
def graphThresholds : Thresholds K where
  epsilon := o.epsilon
  minSection := min o.epsilon (o.tolerances.jointScale * 0.25)
  epsilon_nonneg := o.epsilon_nonneg
  minSection_nonneg :=
    le_min o.epsilon_nonneg (mul_nonneg o.tolerances.joint_pos.le (by norm_num))

/-- The thresholds of a joint. -/
def jointThresholds : Thresholds K where
  epsilon := o.epsilon
  minSection := o.tolerances.jointScale
  epsilon_nonneg := o.epsilon_nonneg
  minSection_nonneg := o.tolerances.joint_pos.le

/-! ## The contact graph -/

/-- `graph[left].add(right)` and back. -/
def link {n : Nat} (graph : Fin n → Finset (Fin n)) (left right : Fin n) :
    Fin n → Finset (Fin n) :=
  let graph := Function.update graph left (insert right (graph left))
  Function.update graph right (insert left (graph right))

/-- The pairs of parts, each once. -/
def pairs (n : Nat) : List (Fin n × Fin n) :=
  (List.finRange n).flatMap fun left =>
    ((List.finRange n).filter (left < ·)).map fun right => (left, right)

/-- Two parts are in contact. -/
def inContact (left right : MeshPart K) : Bool :=
  (contactMetrics E.sqrt o.graphThresholds left.mesh right.mesh).connected

/-- `_contact_graph` -/
def contactGraph (parts : List (MeshPart K)) :
    Fin parts.length → Finset (Fin parts.length) :=
  (pairs parts.length).foldl
    (fun graph pair =>
      if o.inContact E parts[pair.1] parts[pair.2] = true then link graph pair.1 pair.2
      else graph) fun _ => ∅

/-- The parts of a role. -/
def ofRole (parts : List (MeshPart K)) (role : Role) : Finset (Fin parts.length) :=
  Finset.univ.filter fun i => parts[i].role = role

/-- `_roles_connected` -/
def rolesConnected (parts : List (MeshPart K)) (order : SetOrder (Fin parts.length))
    (graph : Fin parts.length → Finset (Fin parts.length)) (first second : Role) : Bool :=
  let starts := (List.finRange parts.length).filter fun i => parts[i].role = first
  (Worklist.traverse order (fun i => decide (parts[i].role = second)) graph parts.length
    starts.reverse (ofRole parts first)).1

/-- `_sample_component_volumes` -/
def sampleComponentVolumes (parts : List (MeshPart K)) (order : SetOrder (Fin parts.length))
    (graph : Fin parts.length → Finset (Fin parts.length)) : List K :=
  let sample := ofRole parts .sample
  let components :=
    Worklist.components (fun i => graph i ∩ sample) order parts.length sample
  (components.map fun component => ∑ i ∈ component, parts[i].mesh.volume).insertionSort (· ≥ ·)

/-! ## Joints -/

/-- The contact with the larger section, of two equally large the earlier. -/
def better (best value : ContactMetrics K) : ContactMetrics K :=
  if best.sectionUm < value.sectionUm then value else best

/-- `_best_contact` -/
def bestContact (deposition : MeshPart K) (components : List (MeshPart K)) : ContactMetrics K :=
  (components.map fun component =>
    contactMetrics E.sqrt o.jointThresholds deposition.mesh component.mesh).foldl better
      ⟨⊤, 0, false⟩

/-- `_joint_section` -/
def jointSection (parts : List (MeshPart K)) (purpose : String) (first second : Role) : K :=
  (parts.filter (hasPurpose purpose)).foldl
    (fun best deposition =>
      let left := o.bestContact E deposition (parts.filter (·.role = first))
      let right := o.bestContact E deposition (parts.filter (·.role = second))
      if left.connected && right.connected then max best (min left.sectionUm right.sectionUm)
      else best) 0

/-! ## Work envelopes -/

/-- `_work_envelope` -/
def workEnvelope (phase : Text) : Except PyError (Bounds K) := do
  let N := E.toNumerics
  match o.scenario.data.lookup (txt "work_envelopes") with
  | none => .error (.keyError (txt "work_envelopes"))
  | some (.obj envelopes) =>
      match envelopes.lookup phase with
      | none => .error (.keyError phase)
      | some (.obj value) =>
          match value.lookup (txt "frame") with
          | some (.str frame) =>
              let center ← vec3 N ((value.lookup (txt "center_um")).getD .null).toPy
                (phase ++ txt " envelope center")
              let size ← vec3 N ((value.lookup (txt "size_um")).getD .null).toPy
                (phase ++ txt " envelope size")
              if leastOf size ≤ 0 then
                .error (.valueError
                  (txt "scenario work envelope " ++ phase ++ txt " size is invalid"))
              else
                let origin ← o.scenario.worldPosition frame
                Bounds.around (origin + center) size
          | _ =>
              .error (.valueError (txt "scenario work envelope " ++ phase ++ txt " frame is invalid"))
      | some _ =>
          .error (.valueError (txt "scenario work envelope " ++ phase ++ txt " is invalid"))
  | some _ => PyError.value "scenario work envelopes are invalid"

/-- A change outside the envelope of its phase. -/
def violates (change : MaterialChange K) : Except PyError Bool :=
  match PURPOSE_PHASES.lookup change.purpose with
  | none => .ok true
  | some phase => do
      let envelope ← o.workEnvelope E phase
      .ok (!decide (envelope.contains change.bounds))

/-- `_envelope_violations` -/
def envelopeViolations : List (MaterialChange K) → Except PyError (List Text)
  | [] => .ok []
  | change :: rest => do
      let violated ← o.violates E change
      let later ← envelopeViolations rest
      .ok (if violated then change.purpose :: later else later)

/-! ## The metrics -/

/-- How far the sample is from its target. -/
def sampleErrors (pose : Option (PoseState K)) : Except PyError (K × K) := do
  let target ← o.scenario.worldPosition (txt "target_pose")
  match pose with
  | none => .ok (INVALID_DISTANCE_UM, INVALID_DISTANCE_UM)
  | some pose => do
      let orientation ← o.scenario.orientation "target_pose"
      .ok (norm E.sqrt (pose.position - target),
        norm E.sqrt fun axis => angleDelta (pose.orientation axis) (orientation axis))

/-- How far the needle is from the sample. -/
def retractionDistance (s : SceneSnapshot K) : K :=
  match s.poses.lookup (txt "sample"), s.poses.lookup (txt "needle") with
  | some sample, some needle => norm E.sqrt (needle.position - sample.position)
  | _, _ => if s.needleInserted = false then INVALID_DISTANCE_UM else 0

/-- `evaluate` -/
def evaluate (s : SceneSnapshot K) (order : SetOrder (Fin s.parts.length)) :
    Except PyError (GeometryMetrics K) := do
  let contacts := o.contactGraph E s.parts
  -- Every walk goes through its sets in an order of its own.
  let walk (k : Nat) := order.after (k * (s.parts.length + 1))
  let connectivity (k : Nat) := rolesConnected s.parts (walk k) contacts .sample
  let components := sampleComponentVolumes s.parts (walk 3) contacts
  let retained := principal components / s.plannedSampleVolume
  let violations ← o.envelopeViolations E s.materialChanges
  let errors ← o.sampleErrors E (s.poses.lookup (txt "sample"))
  let retraction := retractionDistance E s
  .ok
    { sampleToSource := connectivity 0 .source
      sampleToNeedle := connectivity 1 .needle
      sampleToTarget := connectivity 2 .target
      needleJointSection := o.jointSection E s.parts "needle_joint" .sample .needle
      targetJointSection := o.jointSection E s.parts "target_joint" .sample .target
      sampleComponentCount := components.length
      totalSampleFraction := components.sum / s.plannedSampleVolume
      retainedSampleFraction := retained
      samplePositionError := errors.1
      sampleOrientationError := errors.2
      sampleIntegrityStep1 := decide (0.75 ≤ retained)
      sampleIntegrityFinal := decide (0.65 ≤ retained)
      changesWithinWorkEnvelopes := violations.isEmpty
      envelopeViolations := violations
      needleRetractionDistance := retraction
      needleSafelyRetracted :=
        !s.needleInserted && decide (o.tolerances.safeRetraction ≤ retraction)
      collision := s.collision
      simulatorIdle := !s.activeOperation
      canonicalGeometryHash := canonicalGeometryHash E s.parts }

end GeometryOracle

end

end InstrumentBench.Geometry

namespace InstrumentBench.Geometry.GeometryOracle

set_option autoImplicit false
set_option linter.unusedSectionVars false

open InstrumentBench.Theory
open InstrumentBench.Fibsem (PyError)

section

variable {K : Type} [Field K] [LinearOrder K] [IsStrictOrderedRing K] [FloorRing K]
  (E : Exact K) (o : GeometryOracle K)

/-! ## The contact graph -/

/-- Contacts that do not depend on which part comes first. -/
def Symmetric (parts : List (MeshPart K)) : Prop :=
  ∀ p ∈ parts, ∀ q ∈ parts, o.inContact E p q = o.inContact E q p

instance (parts : List (MeshPart K)) : Decidable (Symmetric E o parts) :=
  inferInstanceAs (Decidable (∀ p ∈ parts, _))

/-- The graph of the parts that touch. -/
def touching (parts : List (MeshPart K)) : SimpleGraph (Fin parts.length) :=
  SimpleGraph.fromRel fun i j => o.inContact E parts[i] parts[j] = true

variable {E o}

theorem Symmetric.inContact {parts : List (MeshPart K)} (symmetric : Symmetric E o parts)
    (i j : Fin parts.length) :
    o.inContact E parts[i] parts[j] = o.inContact E parts[j] parts[i] :=
  symmetric parts[i] (List.getElem_mem _) parts[j] (List.getElem_mem _)

theorem mem_link {n : Nat} {graph : Fin n → Finset (Fin n)} {left right i j : Fin n}
    (apart : left ≠ right) :
    j ∈ link graph left right i ↔
      j ∈ graph i ∨ (i = left ∧ j = right) ∨ (i = right ∧ j = left) := by
  unfold link
  by_cases first : i = right
  · subst first
    rw [Function.update_self, Function.update_of_ne apart.symm, Finset.mem_insert]
    constructor
    · rintro (rfl | old)
      · exact Or.inr (Or.inr ⟨rfl, rfl⟩)
      · exact Or.inl old
    · rintro (old | ⟨rfl, -⟩ | ⟨-, rfl⟩)
      · exact Or.inr old
      · exact absurd rfl apart
      · exact Or.inl rfl
  · rw [Function.update_of_ne first]
    by_cases second : i = left
    · subst second
      rw [Function.update_self, Finset.mem_insert]
      simp [first, or_comm]
    · rw [Function.update_of_ne second]
      simp [first, second]

theorem mem_pairs {n : Nat} {pair : Fin n × Fin n} : pair ∈ pairs n ↔ pair.1 < pair.2 := by
  obtain ⟨left, right⟩ := pair
  simp [pairs]

/-- The edges of the graph are the contacts. -/
theorem mem_contactGraph {parts : List (MeshPart K)} (symmetric : Symmetric E o parts)
    (i j : Fin parts.length) :
    j ∈ o.contactGraph E parts i ↔ (touching E o parts).Adj i j := by
  have built (edges : List (Fin parts.length × Fin parts.length))
      (graph : Fin parts.length → Finset (Fin parts.length))
      (apart : ∀ pair ∈ edges, pair.1 ≠ pair.2) :
      j ∈ edges.foldl (fun graph pair =>
          if o.inContact E parts[pair.1] parts[pair.2] = true then link graph pair.1 pair.2
          else graph) graph i ↔
        j ∈ graph i ∨ ∃ pair ∈ edges, o.inContact E parts[pair.1] parts[pair.2] = true ∧
          ((i = pair.1 ∧ j = pair.2) ∨ (i = pair.2 ∧ j = pair.1)) := by
    induction edges generalizing graph with
    | nil => simp
    | cons pair rest ih =>
        have later : ∀ pair ∈ rest, pair.1 ≠ pair.2 :=
          fun pair listed => apart pair (List.mem_cons_of_mem _ listed)
        rw [List.foldl_cons, ih _ later, List.exists_mem_cons_iff]
        split
        case isTrue touches =>
          rw [mem_link (apart pair List.mem_cons_self)]
          simp only [touches, true_and, or_assoc]
        case isFalse apart => simp only [apart, Bool.false_eq_true, false_and, false_or]
  rw [contactGraph, built _ _ fun pair listed => (mem_pairs.1 listed).ne]
  rw [touching, SimpleGraph.fromRel_adj]
  constructor
  · rintro (none | ⟨⟨left, right⟩, listed, touches, ⟨rfl, rfl⟩ | ⟨rfl, rfl⟩⟩)
    · exact absurd none (Finset.notMem_empty _)
    · exact ⟨(mem_pairs.1 listed).ne, Or.inl touches⟩
    · exact ⟨(mem_pairs.1 listed).ne', Or.inr touches⟩
  · rintro ⟨apart, touches⟩
    refine Or.inr ?_
    have both : o.inContact E parts[i] parts[j] = true := by
      rcases touches with touches | touches
      · exact touches
      · rw [symmetric.inContact]
        exact touches
    rcases lt_or_gt_of_ne apart with before | after
    · exact ⟨(i, j), mem_pairs.2 before, both, Or.inl ⟨rfl, rfl⟩⟩
    · refine ⟨(j, i), mem_pairs.2 after, ?_, Or.inr ⟨rfl, rfl⟩⟩
      rw [symmetric.inContact]
      exact both

/-! ## What hangs together -/

theorem length_starts (parts : List (MeshPart K)) (role : Role) :
    ((List.finRange parts.length).filter fun i => parts[i].role = role).length =
      (ofRole parts role).card := by
  have same : ((List.finRange parts.length).filter fun i => parts[i].role = role).toFinset =
      ofRole parts role := by
    ext i
    simp [ofRole]
  rw [← same, List.toFinset_card_of_nodup ((List.nodup_finRange _).filter _)]

theorem reachable_iff {parts : List (MeshPart K)} (symmetric : Symmetric E o parts)
    {i j : Fin parts.length} :
    (touching E o parts).Reachable i j ↔
      Relation.ReflTransGen (fun a b => b ∈ o.contactGraph E parts a) i j := by
  have edges : (touching E o parts).Adj = fun a b => b ∈ o.contactGraph E parts a := by
    ext a b
    exact (mem_contactGraph symmetric a b).symm
  rw [SimpleGraph.reachable_iff_reflTransGen, edges]

/-- **Roles are connected iff a path of contacts joins a part of each.** -/
theorem rolesConnected_iff {parts : List (MeshPart K)} (symmetric : Symmetric E o parts)
    (order : SetOrder (Fin parts.length)) (first second : Role) :
    rolesConnected parts order (o.contactGraph E parts) first second = true ↔
      ∃ i j, parts[i].role = first ∧ parts[j].role = second ∧
        (touching E o parts).Reachable i j := by
  have along : Worklist.Along (fun i => decide (parts[i].role = second))
      (o.contactGraph E parts) (ofRole parts first)
      ((List.finRange parts.length).filter fun i => parts[i].role = first).reverse
      (ofRole parts first) := .start fun i => by simp [ofRole]
  have enough : ((List.finRange parts.length).filter fun i =>
        parts[i].role = first).reverse.length +
      (Fintype.card (Fin parts.length) - (ofRole parts first).card) ≤ parts.length := by
    have room : (ofRole parts first).card ≤ parts.length := card_finset_fin_le _
    rw [List.length_reverse, length_starts, Fintype.card_fin]
    omega
  rw [rolesConnected, (Worklist.traverse_spec along enough).1]
  simp only [Worklist.Reached, ← reachable_iff symmetric, decide_eq_true_eq, ofRole,
    Finset.mem_filter, Finset.mem_univ, true_and]
  constructor
  · rintro ⟨j, ⟨i, start, link⟩, stop⟩
    exact ⟨i, j, start, stop, link⟩
  · rintro ⟨i, j, start, stop, link⟩
    exact ⟨j, ⟨i, start, link⟩, stop⟩

open scoped Classical in
/-- **The component volumes are those of the connected components** of the samples. -/
theorem sampleComponentVolumes_eq {parts : List (MeshPart K)} (symmetric : Symmetric E o parts)
    (order : SetOrder (Fin parts.length)) :
    (sampleComponentVolumes parts order (o.contactGraph E parts) : Multiset K) =
      (Finset.univ : Finset ((touching E o parts).induce
        (ofRole parts .sample : Set (Fin parts.length))).ConnectedComponent).val.map
          fun c => ∑ i ∈ Worklist.members c, parts[i].mesh.volume := by
  have listed : (sampleComponentVolumes parts order (o.contactGraph E parts) : Multiset K) =
      (Worklist.components (fun i => o.contactGraph E parts i ∩ ofRole parts .sample) order
        parts.length (ofRole parts .sample) : Multiset (Finset (Fin parts.length))).map
          fun c => ∑ i ∈ c, parts[i].mesh.volume :=
    Multiset.coe_eq_coe.2 (List.perm_insertionSort _ _)
  have enough : (ofRole parts .sample).card ≤ parts.length := card_finset_fin_le _
  rw [listed, Worklist.components_eq (mem_contactGraph symmetric) enough, Multiset.map_map]
  rfl

/-! ## Another order of the parts -/

variable {parts parts' : List (MeshPart K)}

/-- A permutation of distinct items renames their places. -/
theorem exists_renaming {α : Type} {l l' : List α} (perm : l'.Perm l) (distinct : l.Nodup) :
    ∃ e : Fin l.length ≃ Fin l'.length, ∀ i, l'[e i] = l[i] := by
  classical
  refine ⟨(distinct.getEquiv l).trans ((Equiv.subtypeEquivRight fun x => perm.mem_iff.symm).trans
    ((perm.nodup_iff.2 distinct).getEquiv l').symm), fun i => ?_⟩
  have back := ((perm.nodup_iff.2 distinct).getEquiv l').apply_symm_apply
    ⟨l[i], perm.mem_iff.2 (List.getElem_mem _)⟩
  exact congrArg Subtype.val back

variable {e : Fin parts.length ≃ Fin parts'.length}

theorem Symmetric.perm (symmetric : Symmetric E o parts) (perm : parts'.Perm parts) :
    Symmetric E o parts' :=
  fun p first q second => symmetric p (perm.mem_iff.1 first) q (perm.mem_iff.1 second)

theorem renamed_contacts (symmetric : Symmetric E o parts) (symmetric' : Symmetric E o parts')
    (same : ∀ i, parts'[e i] = parts[i]) :
    Worklist.Renamed e (o.contactGraph E parts) (o.contactGraph E parts') := by
  intro a b
  rw [mem_contactGraph symmetric, mem_contactGraph symmetric']
  simp only [touching, SimpleGraph.fromRel_adj, same, e.injective.ne_iff]

theorem ofRole_map (same : ∀ i, parts'[e i] = parts[i]) (role : Role) :
    (ofRole parts role).map e.toEmbedding = ofRole parts' role := by
  ext j
  obtain ⟨i, rfl⟩ := e.surjective j
  have mapped : e i ∈ (ofRole parts role).map e.toEmbedding ↔ i ∈ ofRole parts role :=
    Finset.mem_map' e.toEmbedding
  rw [mapped]
  simp only [ofRole, Finset.mem_filter, Finset.mem_univ, true_and, same]

/-- **Connected roles stay connected.** -/
theorem rolesConnected_perm (symmetric : Symmetric E o parts) (symmetric' : Symmetric E o parts')
    (same : ∀ i, parts'[e i] = parts[i]) (order : SetOrder (Fin parts.length))
    (order' : SetOrder (Fin parts'.length)) (first second : Role) :
    rolesConnected parts' order' (o.contactGraph E parts') first second =
      rolesConnected parts order (o.contactGraph E parts) first second := by
  have renamed := renamed_contacts symmetric symmetric' same
  have reach (i j : Fin parts.length) :
      (touching E o parts').Reachable (e i) (e j) ↔ (touching E o parts).Reachable i j := by
    rw [reachable_iff symmetric, reachable_iff symmetric']
    exact renamed.reach_iff
  rw [Bool.eq_iff_iff, rolesConnected_iff symmetric', rolesConnected_iff symmetric]
  constructor
  · rintro ⟨i, j, start, stop, link⟩
    obtain ⟨i, rfl⟩ := e.surjective i
    obtain ⟨j, rfl⟩ := e.surjective j
    rw [same] at start stop
    exact ⟨i, j, start, stop, (reach i j).1 link⟩
  · rintro ⟨i, j, start, stop, link⟩
    refine ⟨e i, e j, ?_, ?_, (reach i j).2 link⟩
    · rw [same]
      exact start
    · rw [same]
      exact stop

/-- **The component volumes stay.** -/
theorem sampleComponentVolumes_perm (symmetric : Symmetric E o parts)
    (symmetric' : Symmetric E o parts') (same : ∀ i, parts'[e i] = parts[i])
    (order : SetOrder (Fin parts.length)) (order' : SetOrder (Fin parts'.length)) :
    sampleComponentVolumes parts' order' (o.contactGraph E parts') =
      sampleComponentVolumes parts order (o.contactGraph E parts) := by
  let sample := ofRole parts .sample
  have mapped : sample.map e.toEmbedding = ofRole parts' .sample := ofRole_map same .sample
  have renamed : Worklist.Renamed e (fun i => o.contactGraph E parts i ∩ sample)
      (fun i => o.contactGraph E parts' i ∩ sample.map e.toEmbedding) := by
    intro a b
    rw [Finset.mem_inter, Finset.mem_inter, renamed_contacts symmetric symmetric' same]
    exact and_congr_right' (Finset.mem_map' e.toEmbedding)
  have enough : sample.card ≤ parts.length := card_finset_fin_le _
  have enough' : sample.card ≤ parts'.length := by
    rw [← Finset.card_map e.toEmbedding]
    exact card_finset_fin_le _
  have components :
      (Worklist.components (fun i => o.contactGraph E parts' i ∩ sample.map e.toEmbedding) order'
          parts'.length (sample.map e.toEmbedding) : Multiset (Finset (Fin parts'.length))) =
        (Worklist.components (fun i => o.contactGraph E parts i ∩ sample) order parts.length
          sample : Multiset (Finset (Fin parts.length))).map (Finset.map e.toEmbedding) :=
    Worklist.components_renamed renamed (Worklist.linked_restrict (mem_contactGraph symmetric))
      (Worklist.linked_restrict (mem_contactGraph symmetric')) enough enough'
  rw [mapped] at components
  have volumes : ∀ c : Finset (Fin parts.length),
      ∑ j ∈ c.map e.toEmbedding, parts'[j].mesh.volume = ∑ i ∈ c, parts[i].mesh.volume := by
    intro c
    rw [Finset.sum_map]
    exact Finset.sum_congr rfl fun i _ => congrArg (·.mesh.volume) (same i)
  have perm : (sampleComponentVolumes parts' order' (o.contactGraph E parts')).Perm
      (sampleComponentVolumes parts order (o.contactGraph E parts)) := by
    refine (List.perm_insertionSort _ _).trans
      (List.Perm.trans ?_ (List.perm_insertionSort _ _).symm)
    rw [← Multiset.coe_eq_coe, ← Multiset.map_coe, ← Multiset.map_coe, components,
      Multiset.map_map]
    exact Multiset.map_congr rfl fun c _ => volumes c
  exact perm.eq_of_pairwise (fun a b _ _ above below => le_antisymm below above)
    (List.pairwise_insertionSort _ _) (List.pairwise_insertionSort _ _)

/-! ## Joints -/

/-- A contact that its section determines: there is one iff the section is positive and
large enough. -/
def Determined (thresholds : Thresholds K) (c : ContactMetrics K) : Prop :=
  c.connected =
    decide (0 < c.sectionUm ∧ thresholds.minSection ≤ c.sectionUm + contactEpsilon)

theorem better_section (best value : ContactMetrics K) :
    (better best value).sectionUm = max best.sectionUm value.sectionUm := by
  unfold better
  split
  case isTrue less => rw [max_eq_right less.le]
  case isFalse less => rw [max_eq_left (not_lt.1 less)]

/-- **The best contact has the largest section and is determined by it.** -/
theorem best_spec {thresholds : Thresholds K} {values : List (ContactMetrics K)}
    (determined : ∀ value ∈ values, 0 < value.sectionUm → Determined thresholds value)
    {best : ContactMetrics K} (nonneg : 0 ≤ best.sectionUm) (before : Determined thresholds best) :
    (values.foldl better best).sectionUm =
        (values.map ContactMetrics.sectionUm).foldl max best.sectionUm ∧
      Determined thresholds (values.foldl better best) := by
  induction values generalizing best with
  | nil => exact ⟨rfl, before⟩
  | cons value rest ih =>
      have later : ∀ value ∈ rest, 0 < value.sectionUm → Determined thresholds value :=
        fun value listed => determined value (List.mem_cons_of_mem _ listed)
      have nonneg' : 0 ≤ (better best value).sectionUm := by
        rw [better_section]
        exact le_max_of_le_left nonneg
      have before' : Determined thresholds (better best value) := by
        unfold better
        split
        case isTrue larger =>
          exact determined value List.mem_cons_self (nonneg.trans_lt larger)
        case isFalse => exact before
      rw [List.foldl_cons, List.map_cons, List.foldl_cons, ← better_section]
      exact ih later nonneg' before'

theorem bestContact_spec (deposition : MeshPart K) (components : List (MeshPart K)) :
    (o.bestContact E deposition components).sectionUm =
        ((components.map fun component => contactMetrics E.sqrt o.jointThresholds deposition.mesh
          component.mesh).map ContactMetrics.sectionUm).foldl max 0 ∧
      Determined o.jointThresholds (o.bestContact E deposition components) := by
  refine best_spec ?_ le_rfl (by simp [Determined])
  intro value listed positive
  obtain ⟨component, -, rfl⟩ := List.mem_map.1 listed
  unfold Determined
  rw [connected_of_section_pos E.sqrt positive]
  simp only [positive, true_and]

/-- **The best contact, ties included, does not depend on the order.** -/
theorem bestContact_perm (deposition : MeshPart K) {components components' : List (MeshPart K)}
    (perm : components'.Perm components) :
    (o.bestContact E deposition components').sectionUm =
        (o.bestContact E deposition components).sectionUm ∧
      (o.bestContact E deposition components').connected =
        (o.bestContact E deposition components).connected := by
  obtain ⟨largest, determined⟩ := bestContact_spec (E := E) (o := o) deposition components
  obtain ⟨largest', determined'⟩ := bestContact_spec (E := E) (o := o) deposition components'
  have : RightCommutative (max : K → K → K) := ⟨max_right_comm⟩
  have same : (o.bestContact E deposition components').sectionUm =
      (o.bestContact E deposition components).sectionUm := by
    rw [largest, largest']
    exact ((perm.map _).map _).foldl_eq _
  refine ⟨same, ?_⟩
  rw [determined, determined', same]

/-- **The section of a joint stays.** -/
theorem jointSection_perm (perm : parts'.Perm parts) (purpose : String) (first second : Role) :
    o.jointSection E parts' purpose first second = o.jointSection E parts purpose first second := by
  have sides (role : Role) : (parts'.filter (·.role = role)).Perm (parts.filter (·.role = role)) :=
    perm.filter _
  unfold jointSection
  simp only [(bestContact_perm _ (sides _)).1, (bestContact_perm _ (sides _)).2]
  refine List.Perm.foldl_eq' (perm.filter _) (fun p _ q _ best => ?_) 0
  -- A deposition that joins nothing leaves the best section as it is.
  by_cases joins : (o.bestContact E p (parts.filter (·.role = first))).connected &&
      (o.bestContact E p (parts.filter (·.role = second))).connected
  · by_cases joins' : (o.bestContact E q (parts.filter (·.role = first))).connected &&
        (o.bestContact E q (parts.filter (·.role = second))).connected
    · rw [if_pos joins, if_pos joins', if_pos joins', if_pos joins, max_right_comm]
    · rw [if_neg joins', if_neg joins']
  · rw [if_neg joins, if_neg joins]

/-! ## The digest -/

/-- **The digest of a scene stays**: no two parts have one name, so they sort to one list. -/
theorem canonicalGeometryHash_perm (perm : parts'.Perm parts)
    (unique : (parts.map MeshPart.name).Nodup) :
    canonicalGeometryHash E parts' = canonicalGeometryHash E parts := by
  have sorted : parts'.insertionSort (fun p q => sortKey p ≤ sortKey q) =
      parts.insertionSort (fun p q => sortKey p ≤ sortKey q) := by
    have both := (List.perm_insertionSort (fun p q => sortKey p ≤ sortKey q) parts').trans
      (perm.trans (List.perm_insertionSort (fun p q => sortKey p ≤ sortKey q) parts).symm)
    refine both.eq_of_pairwise ?_ (List.pairwise_insertionSort _ _)
      (List.pairwise_insertionSort _ _)
    intro p q first second below above
    have named : p.name = q.name := congrArg Triple.second (le_antisymm below above)
    rw [List.mem_insertionSort] at first second
    exact List.inj_on_of_nodup_map unique (perm.mem_iff.1 first) second named
  rw [canonicalGeometryHash, canonicalGeometryHash, sorted]

/-! ## The metrics -/

theorem evaluate_perm {s : SceneSnapshot K} (symmetric : Symmetric E o s.parts)
    (unique : (s.parts.map MeshPart.name).Nodup) (perm : parts'.Perm s.parts)
    (order : SetOrder (Fin s.parts.length)) (order' : SetOrder (Fin parts'.length)) :
    o.evaluate E { s with parts := parts' } order' = o.evaluate E s order := by
  obtain ⟨e, same⟩ := exists_renaming perm (unique.of_map _)
  have symmetric' := symmetric.perm perm
  have connected (k : Nat) (role : Role) :
      rolesConnected parts' (order'.after (k * (parts'.length + 1))) (o.contactGraph E parts')
          .sample role =
        rolesConnected s.parts (order.after (k * (s.parts.length + 1)))
          (o.contactGraph E s.parts) .sample role :=
    rolesConnected_perm symmetric symmetric' same _ _ .sample role
  have volumes := sampleComponentVolumes_perm symmetric symmetric' same
    (order.after (3 * (s.parts.length + 1))) (order'.after (3 * (parts'.length + 1)))
  unfold evaluate
  simp only [connected, volumes, jointSection_perm perm, canonicalGeometryHash_perm perm unique]
  rfl

/-- A path of contacts joins a sample to a part of the role. -/
def Joined (E : Exact K) (o : GeometryOracle K) (parts : List (MeshPart K)) (role : Role) : Prop :=
  ∃ i j, parts[i].role = .sample ∧ parts[j].role = role ∧ (touching E o parts).Reachable i j

open scoped Classical in
/-- The metrics that are read off the contacts. -/
structure OfContacts (E : Exact K) (o : GeometryOracle K) (s : SceneSnapshot K)
    (metrics : GeometryMetrics K) : Prop where
  source : metrics.sampleToSource = true ↔ Joined E o s.parts .source
  needle : metrics.sampleToNeedle = true ↔ Joined E o s.parts .needle
  target : metrics.sampleToTarget = true ↔ Joined E o s.parts .target
  components : metrics.sampleComponentCount = Fintype.card ((touching E o s.parts).induce
    (ofRole s.parts .sample : Set (Fin s.parts.length))).ConnectedComponent
  total : metrics.totalSampleFraction = (∑ c : ((touching E o s.parts).induce
    (ofRole s.parts .sample : Set (Fin s.parts.length))).ConnectedComponent,
      ∑ i ∈ Worklist.members c, s.parts[i].mesh.volume) / s.plannedSampleVolume
  needleJoint : metrics.needleJointSection =
    o.jointSection E s.parts "needle_joint" .sample .needle
  targetJoint : metrics.targetJointSection =
    o.jointSection E s.parts "target_joint" .sample .target

theorem evaluate_ofContacts {s : SceneSnapshot K} (symmetric : Symmetric E o s.parts)
    {order : SetOrder (Fin s.parts.length)} {metrics : GeometryMetrics K}
    (made : o.evaluate E s order = .ok metrics) : OfContacts E o s metrics := by
  simp only [evaluate, bind, Except.bind] at made
  split at made
  · cases made
  · split at made
    · cases made
    · cases made
      have volumes := sampleComponentVolumes_eq symmetric (order.after (3 * (s.parts.length + 1)))
      exact
        { source := rolesConnected_iff symmetric _ _ _
          needle := rolesConnected_iff symmetric _ _ _
          target := rolesConnected_iff symmetric _ _ _
          components := by simpa using congrArg Multiset.card volumes
          total := by
            have summed := congrArg Multiset.sum volumes
            rw [Multiset.sum_coe] at summed
            exact congrArg (· / _) summed
          needleJoint := rfl
          targetJoint := rfl }

open scoped Classical in
/-- **The metrics of a scene are those of its contacts, in any order of its parts.**  The
component volumes are the volumes of the connected components of the samples, roles are
connected iff a path of contacts joins a part of each, `evaluate` returns these with the
joint sections, and no metric changes with the order of the parts, whose names a snapshot
keeps distinct, or with the order sets are gone through in. -/
theorem metrics_of_contacts (s : SceneSnapshot K) (symmetric : Symmetric E o s.parts) :
    (∀ order, (sampleComponentVolumes s.parts order (o.contactGraph E s.parts) : Multiset K) =
        (Finset.univ : Finset ((touching E o s.parts).induce
          (ofRole s.parts .sample : Set (Fin s.parts.length))).ConnectedComponent).val.map
            fun c => ∑ i ∈ Worklist.members c, s.parts[i].mesh.volume) ∧
      (∀ order role,
        rolesConnected s.parts order (o.contactGraph E s.parts) .sample role = true ↔
          ∃ i j, s.parts[i].role = .sample ∧ s.parts[j].role = role ∧
            (touching E o s.parts).Reachable i j) ∧
      (∀ order metrics, o.evaluate E s order = .ok metrics → OfContacts E o s metrics) ∧
      ((s.parts.map MeshPart.name).Nodup → ∀ order parts', parts'.Perm s.parts →
        ∀ order' : SetOrder (Fin parts'.length),
          o.evaluate E { s with parts := parts' } order' = o.evaluate E s order) :=
  ⟨sampleComponentVolumes_eq symmetric,
    fun order role => rolesConnected_iff symmetric order .sample role,
    fun _ _ => evaluate_ofContacts symmetric, fun unique order _ perm order' => evaluate_perm symmetric unique perm order order'⟩

end

/-! ## A sample on a needle -/

/-- The whole part of the `k`-th root, for small numbers. -/
def smallRoot (k : Nat) (x : ℚ) : ℚ :=
  ((List.range 40).filter fun n : Nat => decide ((n : ℚ) ^ k ≤ x)).getLastD 0

/-- Rational numbers, with the roots of small squares and cubes and the numerals of
integers. -/
def rational : Exact ℚ where
  float
    | .int i => .ok i
    | _ => .error (.typeError (txt "float() argument must be a string or a real number"))
  isFinite _ := true
  radians degrees := degrees
  cos _ := 1
  sin _ := 0
  sqrt := smallRoot 2
  cuberoot := smallRoot 3
  numeral x := (if x < 0 then txt "-" else []) ++ decimal x.num.natAbs ++ txt ".0"

/-- A corner cut off a cube, as a part. -/
def cornerPart (name : String) (named : txt name ≠ []) (role : Role)
    (ordinary : role ≠ .deposition) (height : ℚ) : MeshPart ℚ where
  name := txt name
  role := role
  mesh :=
    { size := 4
      vertices := ![![0, 0, 0], ![10, 0, 0], ![0, 10, 0], ![0, 0, height]]
      faces := [⟨0, 2, 1⟩, ⟨0, 1, 3⟩, ⟨0, 3, 2⟩, ⟨1, 2, 3⟩]
      three := by decide
      nonempty := by decide
      proper := by decide }
  purpose := none
  named := named
  purposed := fun same => absurd same ordinary

/-- A sample with a needle below it. -/
def onNeedle : SceneSnapshot ℚ where
  checkpointId := txt "step_2"
  parts :=
    [cornerPart "sample" named_sample .sample (by decide) 10,
     cornerPart "needle" (by decide) .needle (by decide) (-30)]
  poses := []
  plannedSampleVolume := 1000
  materialChanges := []
  needleInserted := true
  activeOperation := false
  collision := false

/-- The oracle of a cube of ten micrometres whose target is where the world starts. -/
def cubeOracle : GeometryOracle ℚ where
  scenario :=
    { sampleDimensions := ![10, 10, 10]
      frames := [(txt "target_pose", ⟨txt "world", ![0, 0, 0], ![0, 0, 0]⟩)]
      data := [] }
  tolerances := ⟨10, 0.8, 0.3, 5, 5, by decide +kernel⟩

/-- The sample hangs on the needle, whichever is listed first. -/
theorem metrics_of_onNeedle :
    (cubeOracle.evaluate rational
        { onNeedle with parts := onNeedle.parts.reverse } (SetOrder.ascending 2)) =
      cubeOracle.evaluate rational onNeedle (SetOrder.ascending 2) :=
  (metrics_of_contacts onNeedle (by decide +kernel)).2.2.2 (by decide +kernel)
    (SetOrder.ascending 2) _ (List.reverse_perm _) (SetOrder.ascending 2)

example : (cubeOracle.evaluate rational onNeedle (SetOrder.ascending 2)).toOption.map
    (fun m => (m.sampleToNeedle, m.sampleToSource, m.sampleComponentCount)) =
      some (true, false, 1) := by
  decide +kernel

end InstrumentBench.Geometry.GeometryOracle
