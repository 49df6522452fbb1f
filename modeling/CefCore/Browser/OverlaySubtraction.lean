import CefCore.Browser.GeometryUtil
import Mathlib.Data.Set.BooleanAlgebra
import Mathlib.Order.CompletePartialOrder

/-!
# Overlays near the edges of a window

`SubtractOverlayFromBoundingBox` of `libcef/browser/geometry_util.cc` takes from a rectangle the part
that an overlay covers, if the overlay is near an edge. It cuts all along the edge: above or below if
the common part of the two is at least as wide as high, and else at the left or at the right.

## Main results

* `subtractOverlayFromBoundingBox_iff`: when the rest is the largest rectangle beside the overlay.
-/

namespace CefCore.Browser

open MachineInt GfxGeometry Option

/-- The insets at the two edges of an axis, one of them `0`: the first edge is preferred. -/
def edgeInsets (boundsStart boundsSize overlapStart overlapSize maxDistance : Int) :
    Option (Int × Int) := do
  let deltaFirst ← checkedInt (overlapStart - boundsStart)
  let stop ← checkedInt (boundsStart + boundsSize)
  let behind ← checkedInt (stop - overlapStart)
  let deltaLast ← checkedInt (behind - overlapSize)
  if deltaFirst ≤ deltaLast ∧ deltaFirst ≤ maxDistance then
    let inset ← checkedInt (deltaFirst + overlapSize)
    return (inset, 0)
  else if deltaLast ≤ maxDistance then
    let inset ← checkedInt (deltaLast + overlapSize)
    return (0, inset)
  else
    return (0, 0)

def subtractOverlayFromBoundingBox (G : GfxGeometry) (bounds overlay : G.Rect) (maxDistance : Int) :
    Option G.Rect :=
  if G.contains overlay bounds then some bounds
  else
    let overlap := G.intersect overlay bounds
    if G.isEmpty overlap then some bounds
    else do
      let insets : Insets ←
        if G.width overlap ≥ G.height overlap then do
          let (top, bottom) ←
            edgeInsets (G.y bounds) (G.height bounds) (G.y overlap) (G.height overlap) maxDistance
          pure { top, bottom }
        else do
          let (left, right) ←
            edgeInsets (G.x bounds) (G.width bounds) (G.x overlap) (G.width overlap) maxDistance
          pure { left, right }
      if G.insetsIsEmpty insets then return bounds
      return G.inset bounds insets

/-! ### What the function is to do -/

variable {G : GfxGeometry}

def GfxGeometry.points (r : G.Rect) : Set (Int × Int) :=
  {p | (G.x r ≤ p.1 ∧ p.1 < G.x r + G.width r) ∧ G.y r ≤ p.2 ∧ p.2 < G.y r + G.height r}

lemma GfxGeometry.mem_points {r : G.Rect} {p : Int × Int} : p ∈ points r ↔
    (G.x r ≤ p.1 ∧ p.1 < G.x r + G.width r) ∧ G.y r ≤ p.2 ∧ p.2 < G.y r + G.height r := Iff.rfl

section Overlap

variable (bounds overlay : G.Rect)

def overlapLeft : Int := max (G.x overlay) (G.x bounds)

def overlapTop : Int := max (G.y overlay) (G.y bounds)

def overlapRight : Int := min (G.x overlay + G.width overlay) (G.x bounds + G.width bounds)

def overlapBottom : Int := min (G.y overlay + G.height overlay) (G.y bounds + G.height bounds)

/-- The two rectangles have a common part. -/
def Overlapping : Prop :=
  overlapLeft bounds overlay < overlapRight bounds overlay ∧
    overlapTop bounds overlay < overlapBottom bounds overlay

/-- The common part is at least as wide as high. -/
def Wide : Prop :=
  overlapBottom bounds overlay - overlapTop bounds overlay ≤
    overlapRight bounds overlay - overlapLeft bounds overlay

instance : Decidable (Wide bounds overlay) := inferInstanceAs (Decidable (_ ≤ _))

end Overlap

inductive Edge where
  | top
  | bottom
  | left
  | right

/-- The distance of the overlay from an edge of `bounds`. -/
def Edge.distance (bounds overlay : G.Rect) : Edge → Int
  | .top => overlapTop bounds overlay - G.y bounds
  | .bottom => G.y bounds + G.height bounds - overlapBottom bounds overlay
  | .left => overlapLeft bounds overlay - G.x bounds
  | .right => G.x bounds + G.width bounds - overlapRight bounds overlay

/-- The points that lie beyond the far side of the overlay, seen from an edge. -/
def Edge.beyond (bounds overlay : G.Rect) : Edge → Set (Int × Int)
  | .top => {p | overlapBottom bounds overlay ≤ p.2}
  | .bottom => {p | p.2 < overlapTop bounds overlay}
  | .left => {p | overlapRight bounds overlay ≤ p.1}
  | .right => {p | p.1 < overlapLeft bounds overlay}

/-- The nearer one of two edges; the first one is preferred. -/
def nearerOf (bounds overlay : G.Rect) (first last : Edge) : Edge :=
  if first.distance bounds overlay ≤ last.distance bounds overlay then first else last

/-- The edge where `bounds` is cut. -/
def nearerEdge (bounds overlay : G.Rect) : Edge :=
  if Wide bounds overlay then nearerOf bounds overlay .top .bottom
  else nearerOf bounds overlay .left .right

/-- **An overlay has been subtracted from `bounds`**, or has been left there because it is too far from
the edges: what is left is as much of `bounds` as may be. -/
structure OverlaySubtracted (bounds overlay : G.Rect) (maxDistance : Int) (result : G.Rect) :
    Prop where
  inside : Inside result bounds
  eq_or_disjoint : result = bounds ∨ Disjoint (points result) (points overlay)
  near : result ≠ bounds → (points overlay ∩ points bounds).Nonempty ∧ ¬ Inside bounds overlay ∧
    (nearerEdge bounds overlay).distance bounds overlay ≤ maxDistance
  points_eq : result ≠ bounds →
    points result = points bounds ∩ (nearerEdge bounds overlay).beyond bounds overlay
  nonempty : (points bounds).Nonempty → ¬ Inside bounds overlay → (points result).Nonempty

/-- **The overlay leaves room**: where it has to be cut off, its common part with `bounds` does not go
from one of the two edges to the other. -/
def LeavesRoom (bounds overlay : G.Rect) : Prop :=
  Overlapping bounds overlay → ¬ Inside bounds overlay →
    if Wide bounds overlay then overlapBottom bounds overlay - overlapTop bounds overlay < G.height bounds
    else overlapRight bounds overlay - overlapLeft bounds overlay < G.width bounds

/-! ### The insets -/

lemma edgeInsets_eq {start size overlapStart overlapSize maxDistance : Int} (hsize : FitsInt size)
    (hstop : FitsInt (start + size)) (hfirst : start ≤ overlapStart) (hpos : 0 < overlapSize)
    (hlast : overlapStart + overlapSize ≤ start + size) :
    edgeInsets start size overlapStart overlapSize maxDistance = some
      (if overlapStart - start ≤ start + size - (overlapStart + overlapSize) then
        if overlapStart - start ≤ maxDistance then (overlapStart + overlapSize - start, 0) else (0, 0)
      else
        if start + size - (overlapStart + overlapSize) ≤ maxDistance then
          (0, start + size - overlapStart)
        else (0, 0)) := by
  unfold FitsInt at hsize hstop
  simp only [edgeInsets, bind_eq_bind]
  rw [checkedInt_of_fits (by unfold FitsInt; omega), bind_some,
    checkedInt_of_fits (by unfold FitsInt; omega), bind_some,
    checkedInt_of_fits (by unfold FitsInt; omega), bind_some,
    checkedInt_of_fits (by unfold FitsInt; omega), bind_some]
  split
  · rename_i h
    rw [checkedInt_of_fits (by unfold FitsInt; omega), if_pos (by omega), if_pos h.2]
    show some (_, _) = _
    congr 2
    omega
  · rename_i h
    split
    · rename_i hmax
      rw [checkedInt_of_fits (by unfold FitsInt; omega), if_neg (by omega), if_pos (by omega)]
      show some (_, _) = _
      congr 2
      omega
    · rename_i hmax
      split
      · rw [if_neg (by omega)]
        rfl
      · rw [if_neg (by omega)]
        rfl

def cutAt (bounds overlay : G.Rect) : Edge → Insets
  | .top => { top := overlapBottom bounds overlay - G.y bounds }
  | .bottom => { bottom := G.y bounds + G.height bounds - overlapTop bounds overlay }
  | .left => { left := overlapRight bounds overlay - G.x bounds }
  | .right => { right := G.x bounds + G.width bounds - overlapLeft bounds overlay }

section Overlapping

variable {bounds overlay : G.Rect}

lemma overlap_le (bounds overlay : G.Rect) : G.x bounds ≤ overlapLeft bounds overlay ∧
    overlapRight bounds overlay ≤ G.x bounds + G.width bounds ∧
    G.y bounds ≤ overlapTop bounds overlay ∧
    overlapBottom bounds overlay ≤ G.y bounds + G.height bounds :=
  ⟨le_max_right .., min_le_right .., le_max_right .., min_le_right ..⟩

lemma intersect_eq (h : Overlapping bounds overlay) :
    G.x (G.intersect overlay bounds) = overlapLeft bounds overlay ∧
      G.y (G.intersect overlay bounds) = overlapTop bounds overlay ∧
      G.width (G.intersect overlay bounds) = overlapRight bounds overlay - overlapLeft bounds overlay ∧
      G.height (G.intersect overlay bounds) =
        overlapBottom bounds overlay - overlapTop bounds overlay := by
  obtain ⟨hx, hy, hr, hb⟩ := G.intersect_of_overlap overlay bounds h.1 h.2
  refine ⟨hx, hy, ?_, ?_⟩
  · show _ = min _ _ - max _ _
    omega
  · show _ = min _ _ - max _ _
    omega

lemma isEmpty_intersect_iff :
    G.isEmpty (G.intersect overlay bounds) = true ↔ ¬ Overlapping bounds overlay := by
  constructor
  · intro hempty h
    obtain ⟨-, -, hw, hh⟩ := intersect_eq h
    have := h.1
    have := h.2
    rcases (G.isEmpty_iff _).mp hempty with hzero | hzero <;> omega
  · exact G.intersect_of_apart overlay bounds

lemma insetsIsEmpty_cutAt (h : Overlapping bounds overlay) (edge : Edge) :
    G.insetsIsEmpty (cutAt bounds overlay edge) = false := by
  obtain ⟨hx, hy⟩ := h
  have hle := overlap_le bounds overlay
  refine Bool.eq_false_iff.mpr fun hempty => ?_
  have hzero := (G.insetsIsEmpty_iff _).mp hempty
  cases edge <;> simp only [cutAt] at hzero <;> omega

lemma contains_iff_inside : G.contains overlay bounds = true ↔ Inside bounds overlay := by
  rw [G.contains_iff, Inside, and_assoc]

def cutIfNear (bounds overlay : G.Rect) (maxDistance : Int) (edge : Edge) : Insets :=
  if edge.distance bounds overlay ≤ maxDistance then cutAt bounds overlay edge else {}

variable {maxDistance : Int} {edge : Edge}

lemma cutIfNear_of_le (h : edge.distance bounds overlay ≤ maxDistance) :
    cutIfNear bounds overlay maxDistance edge = cutAt bounds overlay edge := if_pos h

lemma cutIfNear_of_not_le (h : ¬ edge.distance bounds overlay ≤ maxDistance) :
    cutIfNear bounds overlay maxDistance edge = {} := if_neg h

section

variable (h : Overlapping bounds overlay)
include h

lemma ite_insetsIsEmpty_eq :
    (if G.insetsIsEmpty (cutIfNear bounds overlay maxDistance edge) then some bounds
      else some (G.inset bounds (cutIfNear bounds overlay maxDistance edge))) =
      some (if edge.distance bounds overlay ≤ maxDistance then
        G.inset bounds (cutAt bounds overlay edge) else bounds) := by
  by_cases hnear : edge.distance bounds overlay ≤ maxDistance
  · rw [cutIfNear_of_le hnear, insetsIsEmpty_cutAt h, if_pos hnear]
    rfl
  · rw [cutIfNear_of_not_le hnear, if_pos ((G.insetsIsEmpty_iff _).mpr ⟨rfl, rfl⟩), if_neg hnear]

lemma edgeInsets_vertical :
    edgeInsets (G.y bounds) (G.height bounds) (overlapTop bounds overlay)
        (overlapBottom bounds overlay - overlapTop bounds overlay) maxDistance =
      some ((cutIfNear bounds overlay maxDistance (nearerOf bounds overlay .top .bottom)).top,
        (cutIfNear bounds overlay maxDistance (nearerOf bounds overlay .top .bottom)).bottom) := by
  obtain ⟨-, hfh, hfb⟩ := G.fits_y bounds
  obtain ⟨-, -, htop, hbottom⟩ := overlap_le bounds overlay
  have hpos := h.2
  rw [edgeInsets_eq hfh hfb htop (by omega) (by omega), add_sub_cancel]
  show some (if Edge.top.distance bounds overlay ≤ Edge.bottom.distance bounds overlay then
      if Edge.top.distance bounds overlay ≤ maxDistance then (overlapBottom bounds overlay - G.y bounds, 0)
      else (0, 0)
    else
      if Edge.bottom.distance bounds overlay ≤ maxDistance then
        (0, G.y bounds + G.height bounds - overlapTop bounds overlay)
      else (0, 0)) = _
  by_cases hle : Edge.top.distance bounds overlay ≤ Edge.bottom.distance bounds overlay
  · rw [if_pos hle, nearerOf, if_pos hle]
    by_cases hnear : Edge.top.distance bounds overlay ≤ maxDistance
    · rw [if_pos hnear, cutIfNear_of_le hnear]
      rfl
    · rw [if_neg hnear, cutIfNear_of_not_le hnear]
  · rw [if_neg hle, nearerOf, if_neg hle]
    by_cases hnear : Edge.bottom.distance bounds overlay ≤ maxDistance
    · rw [if_pos hnear, cutIfNear_of_le hnear]
      rfl
    · rw [if_neg hnear, cutIfNear_of_not_le hnear]

lemma edgeInsets_horizontal :
    edgeInsets (G.x bounds) (G.width bounds) (overlapLeft bounds overlay)
        (overlapRight bounds overlay - overlapLeft bounds overlay) maxDistance =
      some ((cutIfNear bounds overlay maxDistance (nearerOf bounds overlay .left .right)).left,
        (cutIfNear bounds overlay maxDistance (nearerOf bounds overlay .left .right)).right) := by
  obtain ⟨-, hfw, hfr⟩ := G.fits_x bounds
  obtain ⟨hleft, hright, -, -⟩ := overlap_le bounds overlay
  have hpos := h.1
  rw [edgeInsets_eq hfw hfr hleft (by omega) (by omega), add_sub_cancel]
  show some (if Edge.left.distance bounds overlay ≤ Edge.right.distance bounds overlay then
      if Edge.left.distance bounds overlay ≤ maxDistance then (overlapRight bounds overlay - G.x bounds, 0)
      else (0, 0)
    else
      if Edge.right.distance bounds overlay ≤ maxDistance then
        (0, G.x bounds + G.width bounds - overlapLeft bounds overlay)
      else (0, 0)) = _
  by_cases hle : Edge.left.distance bounds overlay ≤ Edge.right.distance bounds overlay
  · rw [if_pos hle, nearerOf, if_pos hle]
    by_cases hnear : Edge.left.distance bounds overlay ≤ maxDistance
    · rw [if_pos hnear, cutIfNear_of_le hnear]
      rfl
    · rw [if_neg hnear, cutIfNear_of_not_le hnear]
  · rw [if_neg hle, nearerOf, if_neg hle]
    by_cases hnear : Edge.right.distance bounds overlay ≤ maxDistance
    · rw [if_pos hnear, cutIfNear_of_le hnear]
      rfl
    · rw [if_neg hnear, cutIfNear_of_not_le hnear]

end

lemma cutIfNear_vertical : (cutIfNear bounds overlay maxDistance (nearerOf bounds overlay .top .bottom)) =
    { top := (cutIfNear bounds overlay maxDistance (nearerOf bounds overlay .top .bottom)).top
      bottom := (cutIfNear bounds overlay maxDistance (nearerOf bounds overlay .top .bottom)).bottom } := by
  unfold cutIfNear nearerOf
  split <;> split <;> rfl

lemma cutIfNear_horizontal : (cutIfNear bounds overlay maxDistance (nearerOf bounds overlay .left .right)) =
    { left := (cutIfNear bounds overlay maxDistance (nearerOf bounds overlay .left .right)).left
      right := (cutIfNear bounds overlay maxDistance (nearerOf bounds overlay .left .right)).right } := by
  unfold cutIfNear nearerOf
  split <;> split <;> rfl

/-- **What the function computes** for two rectangles with a common part. -/
lemma subtractOverlayFromBoundingBox_of_overlapping (hcontains : ¬ Inside bounds overlay)
    (h : Overlapping bounds overlay) :
    subtractOverlayFromBoundingBox G bounds overlay maxDistance =
      some (if (nearerEdge bounds overlay).distance bounds overlay ≤ maxDistance then
        G.inset bounds (cutAt bounds overlay (nearerEdge bounds overlay)) else bounds) := by
  obtain ⟨hx, hy, hw, hh⟩ := intersect_eq h
  have hempty : ¬ G.isEmpty (G.intersect overlay bounds) = true :=
    fun hempty => isEmpty_intersect_iff.mp hempty h
  unfold subtractOverlayFromBoundingBox
  rw [if_neg (mt contains_iff_inside.mp hcontains)]
  simp only [if_neg hempty, hx, hy, hw, hh, ge_iff_le]
  rw [← ite_insetsIsEmpty_eq h]
  by_cases hwide : Wide bounds overlay
  · have hedge : nearerEdge bounds overlay = nearerOf bounds overlay .top .bottom := if_pos hwide
    refine (if_pos hwide).trans ?_
    rw [edgeInsets_vertical h, hedge, cutIfNear_vertical]
    rfl
  · have hedge : nearerEdge bounds overlay = nearerOf bounds overlay .left .right := if_neg hwide
    refine (if_neg hwide).trans ?_
    rw [edgeInsets_horizontal h, hedge, cutIfNear_horizontal]
    rfl

/-! ### What is left -/

section

variable (h : Overlapping bounds overlay)
include h

lemma inset_cutAt_spec (edge : Edge) :
    G.x (G.inset bounds (cutAt bounds overlay edge)) = G.x bounds + (cutAt bounds overlay edge).left ∧
      G.y (G.inset bounds (cutAt bounds overlay edge)) = G.y bounds + (cutAt bounds overlay edge).top ∧
      G.width (G.inset bounds (cutAt bounds overlay edge)) =
        G.width bounds - (cutAt bounds overlay edge).left - (cutAt bounds overlay edge).right ∧
      G.height (G.inset bounds (cutAt bounds overlay edge)) =
        G.height bounds - (cutAt bounds overlay edge).top - (cutAt bounds overlay edge).bottom := by
  obtain ⟨hx, hy⟩ := h
  have hle := overlap_le bounds overlay
  cases edge <;> exact G.inset_spec bounds _ (by simp only [cutAt]; omega)
    (by simp only [cutAt]; omega) (by simp only [cutAt]; omega) (by simp only [cutAt]; omega)
    (by simp only [cutAt]; omega) (by simp only [cutAt]; omega)

lemma inside_inset_cutAt (edge : Edge) :
    Inside (G.inset bounds (cutAt bounds overlay edge)) bounds := by
  obtain ⟨hx, hy, hw, hh⟩ := inset_cutAt_spec h edge
  have hle := overlap_le bounds overlay
  have hpos := h
  unfold Overlapping at hpos
  unfold Inside
  rw [hx, hy, hw, hh]
  cases edge <;> simp only [cutAt] <;> omega

lemma points_inset_cutAt (edge : Edge) :
    points (G.inset bounds (cutAt bounds overlay edge)) =
      points bounds ∩ edge.beyond bounds overlay := by
  obtain ⟨hx, hy, hw, hh⟩ := inset_cutAt_spec h edge
  have hle := overlap_le bounds overlay
  have hpos := h
  unfold Overlapping at hpos
  ext p
  rw [Set.mem_inter_iff, mem_points, mem_points, hx, hy, hw, hh]
  cases edge <;> simp only [Edge.beyond, Set.mem_ofPred_eq, cutAt] <;> omega

end

lemma disjoint_beyond (edge : Edge) :
    Disjoint (points bounds ∩ edge.beyond bounds overlay) (points overlay) := by
  refine Set.disjoint_left.mpr ?_
  rintro p ⟨hbounds, hbeyond⟩ hoverlay
  rw [mem_points] at hbounds hoverlay
  cases edge <;>
    simp only [Edge.beyond, Set.mem_ofPred_eq, overlapTop, overlapBottom, overlapLeft, overlapRight]
      at hbeyond <;>
    omega

lemma nonempty_points_iff {r : G.Rect} : (points r).Nonempty ↔ 0 < G.width r ∧ 0 < G.height r := by
  constructor
  · rintro ⟨p, hp⟩
    rw [mem_points] at hp
    omega
  · rintro ⟨hw, hh⟩
    refine ⟨(G.x r, G.y r), mem_points.mpr ?_⟩
    omega

lemma nonempty_inter_iff :
    (points overlay ∩ points bounds).Nonempty ↔ Overlapping bounds overlay := by
  constructor
  · rintro ⟨p, hoverlay, hbounds⟩
    rw [mem_points] at hoverlay hbounds
    unfold Overlapping overlapLeft overlapRight overlapTop overlapBottom
    omega
  · rintro ⟨hx, hy⟩
    refine ⟨(overlapLeft bounds overlay, overlapTop bounds overlay), ?_⟩
    unfold overlapLeft overlapRight at hx
    unfold overlapTop overlapBottom at hy
    rw [Set.mem_inter_iff, mem_points, mem_points]
    simp only [overlapLeft, overlapTop]
    omega

lemma nonempty_inset_cutAt_iff (h : Overlapping bounds overlay) (hcontains : ¬ Inside bounds overlay) :
    (points (G.inset bounds (cutAt bounds overlay (nearerEdge bounds overlay)))).Nonempty ↔
      LeavesRoom bounds overlay := by
  have hle := overlap_le bounds overlay
  have hpos := h
  unfold Overlapping at hpos
  obtain ⟨-, -, hw, hh⟩ := inset_cutAt_spec h (nearerEdge bounds overlay)
  have hroom : LeavesRoom bounds overlay ↔
      if Wide bounds overlay then
        overlapBottom bounds overlay - overlapTop bounds overlay < G.height bounds
      else overlapRight bounds overlay - overlapLeft bounds overlay < G.width bounds :=
    ⟨fun hroom => hroom h hcontains, fun hroom _ _ => hroom⟩
  rw [nonempty_points_iff, hw, hh, hroom]
  unfold nearerEdge
  split
  · unfold nearerOf
    split <;> rename_i hnearer <;> simp only [Edge.distance] at hnearer <;> simp only [cutAt] <;> omega
  · unfold nearerOf
    split <;> rename_i hnearer <;> simp only [Edge.distance] at hnearer <;> simp only [cutAt] <;> omega

lemma leavesRoom_of_far (hmax : 0 ≤ maxDistance)
    (hfar : ¬ (nearerEdge bounds overlay).distance bounds overlay ≤ maxDistance) :
    LeavesRoom bounds overlay := by
  intro _ _
  have hle := overlap_le bounds overlay
  revert hfar
  unfold nearerEdge
  split
  · unfold nearerOf
    split <;> simp only [Edge.distance] <;> omega
  · unfold nearerOf
    split <;> simp only [Edge.distance] <;> omega

end Overlapping

lemma overlaySubtracted_self {bounds overlay : G.Rect} {maxDistance : Int} :
    OverlaySubtracted bounds overlay maxDistance bounds where
  inside := ⟨⟨Int.le_refl _, Int.le_refl _⟩, Int.le_refl _, Int.le_refl _⟩
  eq_or_disjoint := .inl rfl
  near hne := absurd rfl hne
  points_eq hne := absurd rfl hne
  nonempty hnonempty _ := hnonempty

/-- **Overlays near the edges are subtracted**: for all rectangles and every distance that is not
negative, no operation overflows, and the function does what it is to do, if and only if the common
part of the two rectangles does not go from one edge to the opposite one in the direction of the
cut, or there is no cut because one of the rectangles does not touch the other or lies inside it.

**Proof sketch.** The cut at the nearer edge takes everything if there is nothing beyond the far
side of the overlay; then there is nothing in front of it, either, since the other edge is not
nearer. -/
theorem subtractOverlayFromBoundingBox_iff (G : GfxGeometry) (bounds overlay : G.Rect)
    {maxDistance : Int} (hmax : 0 ≤ maxDistance) :
    ∃ result, subtractOverlayFromBoundingBox G bounds overlay maxDistance = some result ∧
      (OverlaySubtracted bounds overlay maxDistance result ↔ LeavesRoom bounds overlay) := by
  by_cases hcontains : Inside bounds overlay
  · exact ⟨bounds, if_pos (contains_iff_inside.mpr hcontains),
      iff_of_true overlaySubtracted_self fun _ hnot => absurd hcontains hnot⟩
  by_cases h : Overlapping bounds overlay
  · refine ⟨_, subtractOverlayFromBoundingBox_of_overlapping hcontains h, ?_⟩
    by_cases hnear : (nearerEdge bounds overlay).distance bounds overlay ≤ maxDistance
    · rw [if_pos hnear, ← nonempty_inset_cutAt_iff h hcontains]
      refine ⟨fun hsubtracted => hsubtracted.nonempty ?_ hcontains, fun hnonempty => ?_⟩
      · obtain ⟨p, hp⟩ := nonempty_inter_iff.mpr h
        exact ⟨p, hp.2⟩
      · exact {
          inside := inside_inset_cutAt h _
          eq_or_disjoint := .inr (points_inset_cutAt h _ ▸ disjoint_beyond _)
          near := fun _ => ⟨nonempty_inter_iff.mpr h, hcontains, hnear⟩
          points_eq := fun _ => points_inset_cutAt h _
          nonempty := fun _ _ => hnonempty }
    · rw [if_neg hnear]
      exact iff_of_true overlaySubtracted_self (leavesRoom_of_far hmax hnear)
  · refine ⟨bounds, ?_, iff_of_true overlaySubtracted_self fun hyes => absurd hyes h⟩
    unfold subtractOverlayFromBoundingBox
    rw [if_neg (mt contains_iff_inside.mp hcontains)]
    exact if_pos (isEmpty_intersect_iff.mpr h)

theorem subtractOverlayFromBoundingBox_iff_square :
    ∃ result, subtractOverlayFromBoundingBox GfxGeometry.standard (IntRect.make 10 10 80 80)
        (IntRect.make 12 12 76 76) 5 = some result ∧
      (OverlaySubtracted (IntRect.make 10 10 80 80) (IntRect.make 12 12 76 76) 5 result ↔
        LeavesRoom (G := GfxGeometry.standard) (IntRect.make 10 10 80 80) (IntRect.make 12 12 76 76)) :=
  subtractOverlayFromBoundingBox_iff GfxGeometry.standard _ _ (by decide)

/-- **An overlay at the left, as high as the rectangle and wider than high**: nothing is left of the
rectangle, although half of it is free. -/
theorem subtractOverlayFromBoundingBox_fullHeight : ¬ ∀ (G : GfxGeometry) (bounds overlay : G.Rect)
    (maxDistance : Int), 0 ≤ maxDistance →
      ∃ result, subtractOverlayFromBoundingBox G bounds overlay maxDistance = some result ∧
        OverlaySubtracted bounds overlay maxDistance result := by
  intro h
  obtain ⟨result, hresult, hsubtracted⟩ := h GfxGeometry.standard (IntRect.make 0 0 100 10)
    (IntRect.make 0 0 50 10) 10 (by decide)
  obtain rfl : IntRect.make 0 10 100 0 = result := some.inj hresult
  have hnonempty := hsubtracted.nonempty (nonempty_points_iff.mpr (by decide))
    (by unfold Inside; decide)
  exact absurd (nonempty_points_iff.mp hnonempty).2 (by decide)

end CefCore.Browser
