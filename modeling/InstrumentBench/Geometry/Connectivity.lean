/-
# Geometry.Connectivity -- how two parts of a scene touch

`contact_metrics`: the least distance of two meshes, the section they touch with, and
whether that is a contact.  The numbers are exact; the square root is a parameter.

A section is positive only of meshes within the tolerance of each other, so that a
positive section says by itself whether there is a contact (`connected_of_section_pos`).
-/
import InstrumentBench.Geometry.Extremes
import InstrumentBench.Geometry.Voxel
import Mathlib.Order.WithBot

namespace InstrumentBench.Geometry

set_option autoImplicit false
set_option linter.unusedSectionVars false

open InstrumentBench.Theory
open InstrumentBench.Fibsem (PyError)

section

variable {K : Type} [Field K] [LinearOrder K] [IsStrictOrderedRing K] [FloorRing K]

/-- `EPSILON` of the connectivity. -/
def contactEpsilon : K := 1e-12

/-- `round(value, digits)`: the nearest decimal, of two equally near the even one. -/
def roundTo (digits : Nat) (value : K) : K :=
  let scaled := value * 10 ^ digits
  let low := ⌊scaled⌋
  let nearest :=
    if scaled - low < 1 / 2 then low
    else if 1 / 2 < scaled - low then low + 1
    else if low % 2 = 0 then low
    else low + 1
  nearest / 10 ^ digits

/-! ## Bounds -/

/-- The bounds of a mesh, which exact numbers order. -/
def TriangleMesh.box (m : TriangleMesh K) : Bounds K where
  minimum axis := least (m.vertices m.first axis) (m.coordinates axis).tail
  maximum axis := greatest (m.vertices m.first axis) (m.coordinates axis).tail
  ordered _ := not_lt.2 ((least_le _ _).trans (le_greatest _ _))

theorem TriangleMesh.bounds_eq_box (m : TriangleMesh K) : m.bounds = .ok m.box :=
  dif_pos m.box.ordered

namespace Bounds

/-- `overlaps` -/
def overlapsBy (b other : Bounds K) (padding : K) : Prop :=
  ∀ axis, b.minimum axis ≤ other.maximum axis + padding ∧
    other.minimum axis ≤ b.maximum axis + padding

instance (b other : Bounds K) (padding : K) : Decidable (b.overlapsBy other padding) :=
  inferInstanceAs (Decidable (∀ _, _))

/-- `overlap_extents` -/
def overlapExtents (b other : Bounds K) : Vec K := fun axis =>
  max 0 (min (b.maximum axis) (other.maximum axis) - max (b.minimum axis) (other.minimum axis))

/-- `contains`, with its default tolerance. -/
def contains (b other : Bounds K) : Prop :=
  ∀ axis, b.minimum axis - 1e-9 ≤ other.minimum axis ∧
    other.maximum axis ≤ b.maximum axis + 1e-9

instance (b other : Bounds K) : Decidable (b.contains other) := inferInstanceAs (Decidable (∀ _, _))

end Bounds

/-! ## Rays, points and segments -/

/-- `_ray_triangle_distance` -/
def rayTriangleDistance (origin direction : Vec K) (t : Triple (Vec K)) : Option K :=
  let firstEdge := t.second - t.first
  let secondEdge := t.third - t.first
  let perpendicular := cross direction secondEdge
  let determinant := dot firstEdge perpendicular
  if |determinant| ≤ contactEpsilon then none
  else
    let inverse := 1 / determinant
    let offset := origin - t.first
    let u := inverse * dot offset perpendicular
    if u < -contactEpsilon ∨ 1 + contactEpsilon < u then none
    else
      let crossOffset := cross offset firstEdge
      let v := inverse * dot direction crossOffset
      if v < -contactEpsilon ∨ 1 + contactEpsilon < u + v then none
      else some (inverse * dot secondEdge crossOffset)

/-- `_segment_intersects_triangle` -/
def segmentIntersectsTriangle (start stop : Vec K) (t : Triple (Vec K)) : Bool :=
  match rayTriangleDistance start (stop - start) t with
  | none => false
  | some distance => decide (-contactEpsilon ≤ distance ∧ distance ≤ 1 + contactEpsilon)

/-- `_point_inside_mesh` -/
def pointInsideMesh (point : Vec K) (mesh : TriangleMesh K) : Bool :=
  let direction : Vec K := ![1, 0.371390676, 0.529150262]
  let intersections := mesh.triangles.filterMap fun t =>
    match rayTriangleDistance point direction t with
    | none => none
    | some distance => if contactEpsilon < distance then some (roundTo 9 distance) else none
  decide (intersections.toFinset.card % 2 = 1)

variable (sqrt : K → K)

/-- `_norm` -/
def norm (v : Vec K) : K := sqrt (dot v v)

/-- `_point_triangle_distance` -/
def pointTriangleDistance (point : Vec K) (t : Triple (Vec K)) : K :=
  let a := t.first
  let b := t.second
  let c := t.third
  let ab := b - a
  let ac := c - a
  let ap := point - a
  let d1 := dot ab ap
  let d2 := dot ac ap
  if d1 ≤ 0 ∧ d2 ≤ 0 then norm sqrt ap
  else
    let bp := point - b
    let d3 := dot ab bp
    let d4 := dot ac bp
    if 0 ≤ d3 ∧ d4 ≤ d3 then norm sqrt bp
    else
      let vc := d1 * d4 - d3 * d2
      if vc ≤ 0 ∧ 0 ≤ d1 ∧ d3 ≤ 0 then
        let factor := d1 / (d1 - d3)
        norm sqrt (point - (a + factor • ab))
      else
        let cp := point - c
        let d5 := dot ab cp
        let d6 := dot ac cp
        if 0 ≤ d6 ∧ d5 ≤ d6 then norm sqrt cp
        else
          let vb := d5 * d2 - d1 * d6
          if vb ≤ 0 ∧ 0 ≤ d2 ∧ d6 ≤ 0 then
            let factor := d2 / (d2 - d6)
            norm sqrt (point - (a + factor • ac))
          else
            let va := d3 * d6 - d5 * d4
            if va ≤ 0 ∧ 0 ≤ d4 - d3 ∧ 0 ≤ d5 - d6 then
              let factor := (d4 - d3) / ((d4 - d3) + (d5 - d6))
              norm sqrt (point - (b + factor • (c - b)))
            else
              let denominator := 1 / (va + vb + vc)
              let v := vb * denominator
              let w := vc * denominator
              norm sqrt (point - (a + (v • ab + w • ac)))

/-- `min(max(x, 0.0), 1.0)` -/
def clamp (x : K) : K := min (max x 0) 1

/-- `_segment_distance` -/
def segmentDistance (p1 q1 p2 q2 : Vec K) : K :=
  let d1 := q1 - p1
  let d2 := q2 - p2
  let r := p1 - p2
  let a := dot d1 d1
  let e := dot d2 d2
  let f := dot d2 r
  let along (s t : K) : K := norm sqrt ((p1 + s • d1) - (p2 + t • d2))
  if a ≤ contactEpsilon ∧ e ≤ contactEpsilon then norm sqrt r
  else if a ≤ contactEpsilon then along 0 (clamp (f / e))
  else
    let c := dot d1 r
    if e ≤ contactEpsilon then along (clamp (-c / a)) 0
    else
      let b := dot d1 d2
      let denominator := a * e - b * b
      let s := if denominator = 0 then 0 else clamp ((b * f - c * e) / denominator)
      let t := (b * s + f) / e
      if t < 0 then along (clamp (-c / a)) 0
      else if 1 < t then along (clamp ((b - c) / a)) 1
      else along s t

/-- The edges of a triangle. -/
def edges (t : Triple (Vec K)) : List (Vec K × Vec K) :=
  [(t.first, t.second), (t.second, t.third), (t.third, t.first)]

/-- `_triangle_distance` -/
def triangleDistance (first second : Triple (Vec K)) : K :=
  if (edges first).any fun edge => segmentIntersectsTriangle edge.1 edge.2 second then 0
  else if (edges second).any fun edge => segmentIntersectsTriangle edge.1 edge.2 first then 0
  else
    let points := least (pointTriangleDistance sqrt first.first second)
      [pointTriangleDistance sqrt first.second second,
        pointTriangleDistance sqrt first.third second,
        pointTriangleDistance sqrt second.first first,
        pointTriangleDistance sqrt second.second first,
        pointTriangleDistance sqrt second.third first]
    ((edges first).flatMap fun a => (edges second).map fun b => (a, b)).foldl
      (fun minimum pair =>
        min minimum (segmentDistance sqrt pair.1.1 pair.1.2 pair.2.1 pair.2.2)) points

/-! ## Contacts -/

/-- `ContactMetrics`; the least distance of nothing is infinite. -/
structure ContactMetrics (K : Type) where
  minimumDistance : WithTop K
  sectionUm : K
  connected : Bool

/-- The thresholds of a contact, which are not negative. -/
structure Thresholds (K : Type) [Zero K] [LE K] where
  epsilon : K
  minSection : K
  epsilon_nonneg : 0 ≤ epsilon
  minSection_nonneg : 0 ≤ minSection

/-- `_bounds_distance` -/
def boundsDistance (first second : TriangleMesh K) : K :=
  let gaps : Vec K := fun axis =>
    if first.box.maximum axis < second.box.minimum axis then
      second.box.minimum axis - first.box.maximum axis
    else if second.box.maximum axis < first.box.minimum axis then
      first.box.minimum axis - second.box.maximum axis
    else 0
  sqrt (dot gaps gaps)

/-- `_contact_section` -/
def contactSection (first second : TriangleMesh K) (epsilon : K) : K :=
  let overlap := first.box.overlapExtents second.box
  let extents : Vec K := fun axis =>
    if overlap axis = 0 then min (min (first.box.size axis) (second.box.size axis)) epsilon
    else overlap axis
  match [extents 0, extents 1, extents 2].insertionSort (· ≥ ·) with
  | longest :: second :: _ => sqrt (max 0 (longest * second))
  | _ => 0

/-- The least distance of two triangles of the meshes; within the epsilon the search ends. -/
def leastDistance (first second : TriangleMesh K) : WithTop K :=
  (first.triangles.flatMap fun a => second.triangles.map fun b => (a, b)).foldl
    (fun minimum pair =>
      let distance : K := triangleDistance sqrt pair.1 pair.2
      if minimum ≤ (contactEpsilon : K) then minimum else min minimum distance) ⊤

/-- A vertex of one mesh lies inside the other. -/
def contained (first second : TriangleMesh K) : Bool :=
  (List.ofFn first.vertices).any (pointInsideMesh · second) ||
    (List.ofFn second.vertices).any (pointInsideMesh · first)

/-- The distance of two meshes, zero where one holds a vertex of the other. -/
def meshDistance (first second : TriangleMesh K) : WithTop K :=
  let outside : WithTop K := leastDistance sqrt first second
  if (contactEpsilon : K) < outside ∧ contained first second = true then 0 else outside

/-- `contact_metrics` -/
def contactMetrics (thresholds : Thresholds K) (first second : TriangleMesh K) :
    ContactMetrics K :=
  let epsilon := thresholds.epsilon
  if ¬first.box.overlapsBy second.box epsilon then
    let distance : K := boundsDistance sqrt first second
    ⟨distance, 0, false⟩
  else
    let minimum : WithTop K := meshDistance sqrt first second
    let sectionUm := if minimum ≤ epsilon then contactSection sqrt first second epsilon else 0
    ⟨minimum, sectionUm,
      decide (minimum ≤ epsilon ∧ thresholds.minSection ≤ sectionUm + contactEpsilon)⟩

/-- **A positive section says whether there is a contact.** -/
theorem connected_of_section_pos {thresholds : Thresholds K} {first second : TriangleMesh K}
    (positive : 0 < (contactMetrics sqrt thresholds first second).sectionUm) :
    (contactMetrics sqrt thresholds first second).connected =
      decide (thresholds.minSection ≤
        (contactMetrics sqrt thresholds first second).sectionUm + contactEpsilon) := by
  unfold contactMetrics at positive ⊢
  dsimp only at positive ⊢
  split
  case isTrue far =>
    rw [if_pos far] at positive
    exact absurd positive (lt_irrefl _)
  case isFalse near =>
    rw [if_neg near] at positive
    dsimp only at positive ⊢
    by_cases within : meshDistance sqrt first second ≤ thresholds.epsilon
    · simp only [within, true_and]
    · rw [if_neg within] at positive
      exact absurd positive (lt_irrefl _)

end

end InstrumentBench.Geometry
