import CefCore.Foundations.MachineInt
import CefCore.Foundations.Segment
import Mathlib.Algebra.Order.Group.Int

/-!
# Windows on a screen

`MakeVisibleOnScreenRect` of `libcef/browser/geometry_util.cc` moves the rectangle of a window onto a
screen, and makes it smaller if need be.

## Main results

* `makeVisibleOnScreenRect_spec`: where the window is, and that it is moved no further than need be.

## Implementation notes

An addition of numbers of the type `int` that overflows is undefined: there is no result.
-/

namespace CefCore.Browser

open MachineInt Option Segment

structure Insets where
  top : Int := 0
  bottom : Int := 0
  left : Int := 0
  right : Int := 0

/-- `gfx::Rect`, with what is documented of it. A rectangle has no negative size, and its borders are
numbers of the type `int`. -/
structure GfxGeometry where
  Rect : Type
  x : Rect → Int
  y : Rect → Int
  width : Rect → Int
  height : Rect → Int
  /-- The constructor. -/
  rect : Int → Int → Int → Int → Rect
  contains : Rect → Rect → Bool
  intersect : Rect → Rect → Rect
  isEmpty : Rect → Bool
  inset : Rect → Insets → Rect
  insetsIsEmpty : Insets → Bool
  width_nonneg : ∀ r, 0 ≤ width r
  height_nonneg : ∀ r, 0 ≤ height r
  fits_x : ∀ r, FitsInt (x r) ∧ FitsInt (width r) ∧ FitsInt (x r + width r)
  fits_y : ∀ r, FitsInt (y r) ∧ FitsInt (height r) ∧ FitsInt (y r + height r)
  ext : ∀ r s, x r = x s → y r = y s → width r = width s → height r = height s → r = s
  rect_spec : ∀ a b w h, FitsInt a → FitsInt b → 0 ≤ w → 0 ≤ h → FitsInt (a + w) → FitsInt (b + h) →
    FitsInt w → FitsInt h → x (rect a b w h) = a ∧ y (rect a b w h) = b ∧
      width (rect a b w h) = w ∧ height (rect a b w h) = h
  contains_iff : ∀ r s, contains r s = true ↔ x r ≤ x s ∧ x s + width s ≤ x r + width r ∧
    y r ≤ y s ∧ y s + height s ≤ y r + height r
  isEmpty_iff : ∀ r, isEmpty r = true ↔ width r = 0 ∨ height r = 0
  intersect_of_overlap : ∀ r s, max (x r) (x s) < min (x r + width r) (x s + width s) →
    max (y r) (y s) < min (y r + height r) (y s + height s) →
    x (intersect r s) = max (x r) (x s) ∧ y (intersect r s) = max (y r) (y s) ∧
      x (intersect r s) + width (intersect r s) = min (x r + width r) (x s + width s) ∧
      y (intersect r s) + height (intersect r s) = min (y r + height r) (y s + height s)
  intersect_of_apart : ∀ r s, ¬ (max (x r) (x s) < min (x r + width r) (x s + width s) ∧
    max (y r) (y s) < min (y r + height r) (y s + height s)) → isEmpty (intersect r s) = true
  inset_spec : ∀ r i, 0 ≤ i.top → 0 ≤ i.bottom → 0 ≤ i.left → 0 ≤ i.right →
    i.left + i.right ≤ width r → i.top + i.bottom ≤ height r →
    x (inset r i) = x r + i.left ∧ y (inset r i) = y r + i.top ∧
      width (inset r i) = width r - i.left - i.right ∧
      height (inset r i) = height r - i.top - i.bottom
  insetsIsEmpty_iff : ∀ i : Insets, insetsIsEmpty i = true ↔ i.left + i.right = 0 ∧ i.top + i.bottom = 0

/-! ### A standard geometry -/

/-- A rectangle with borders of the type `int`. -/
structure IntRect where
  x : Int
  y : Int
  width : Int
  height : Int
  width_nonneg : 0 ≤ width
  height_nonneg : 0 ≤ height
  fits_x : FitsInt x ∧ FitsInt width ∧ FitsInt (x + width)
  fits_y : FitsInt y ∧ FitsInt height ∧ FitsInt (y + height)

namespace IntRect

/-- The nearest number of the type `int`. -/
def toInt (a : Int) : Int := max (-2 ^ 31) (min a (2 ^ 31 - 1))

/-- The size that is left for a rectangle that begins at `a`. -/
def size (a w : Int) : Int := max 0 (min w (min (2 ^ 31 - 1) (2 ^ 31 - 1 - toInt a)))

lemma toInt_of_fits {a : Int} (h : FitsInt a) : toInt a = a := by
  obtain ⟨hle, hlt⟩ := h
  unfold toInt
  omega

lemma size_of_fits {a w : Int} (ha : FitsInt a) (hw : 0 ≤ w) (hfits : FitsInt w)
    (h : FitsInt (a + w)) : size a w = w := by
  rw [size, toInt_of_fits ha]
  obtain ⟨-, hlt⟩ := h
  obtain ⟨-, hlt'⟩ := hfits
  omega

lemma fits_of_size (a w : Int) : FitsInt (toInt a) ∧ FitsInt (size a w) ∧
    FitsInt (toInt a + size a w) := by
  unfold FitsInt size toInt
  omega

/-- A rectangle, with what fits of the numbers that are given. -/
def make (a b w h : Int) : IntRect where
  x := toInt a
  y := toInt b
  width := size a w
  height := size b h
  width_nonneg := le_max_left ..
  height_nonneg := le_max_left ..
  fits_x := fits_of_size a w
  fits_y := fits_of_size b h

/-- The common part of two rectangles. -/
def intersect (r s : IntRect) : IntRect :=
  let left := max r.x s.x
  let top := max r.y s.y
  let right := min (r.x + r.width) (s.x + s.width)
  let bottom := min (r.y + r.height) (s.y + s.height)
  if left < right ∧ top < bottom then make left top (right - left) (bottom - top) else make 0 0 0 0

lemma make_spec {a b w h : Int} (ha : FitsInt a) (hb : FitsInt b) (hw : 0 ≤ w) (hh : 0 ≤ h)
    (haw : FitsInt (a + w)) (hbh : FitsInt (b + h)) (hfw : FitsInt w) (hfh : FitsInt h) :
    (make a b w h).x = a ∧ (make a b w h).y = b ∧ (make a b w h).width = w ∧
      (make a b w h).height = h :=
  ⟨toInt_of_fits ha, toInt_of_fits hb, size_of_fits ha hw hfw haw, size_of_fits hb hh hfh hbh⟩

end IntRect

def GfxGeometry.standard : GfxGeometry where
  Rect := IntRect
  x := IntRect.x
  y := IntRect.y
  width := IntRect.width
  height := IntRect.height
  rect := IntRect.make
  contains r s := decide (r.x ≤ s.x ∧ s.x + s.width ≤ r.x + r.width ∧ r.y ≤ s.y ∧
    s.y + s.height ≤ r.y + r.height)
  intersect := IntRect.intersect
  isEmpty r := decide (r.width = 0 ∨ r.height = 0)
  inset r i := IntRect.make (r.x + i.left) (r.y + i.top) (r.width - i.left - i.right)
    (r.height - i.top - i.bottom)
  insetsIsEmpty i := decide (i.left + i.right = 0 ∧ i.top + i.bottom = 0)
  width_nonneg := IntRect.width_nonneg
  height_nonneg := IntRect.height_nonneg
  fits_x := IntRect.fits_x
  fits_y := IntRect.fits_y
  ext r s hx hy hw hh := by
    cases r
    cases s
    simp only at hx hy hw hh
    subst hx hy hw hh
    rfl
  rect_spec _ _ _ _ ha hb hw hh haw hbh hfw hfh := IntRect.make_spec ha hb hw hh haw hbh hfw hfh
  contains_iff _ _ := decide_eq_true_iff
  isEmpty_iff _ := decide_eq_true_iff
  intersect_of_overlap r s hx hy := by
    have hspec := IntRect.make_spec (a := max r.x s.x) (b := max r.y s.y)
      (w := min (r.x + r.width) (s.x + s.width) - max r.x s.x)
      (h := min (r.y + r.height) (s.y + s.height) - max r.y s.y)
    obtain ⟨hrx, hrw, hrr⟩ := r.fits_x
    obtain ⟨hry, hrh, hrb⟩ := r.fits_y
    obtain ⟨hsx, hsw, hsr⟩ := s.fits_x
    obtain ⟨hsy, hsh, hsb⟩ := s.fits_y
    have hrect : r.intersect s = IntRect.make (max r.x s.x) (max r.y s.y)
        (min (r.x + r.width) (s.x + s.width) - max r.x s.x)
        (min (r.y + r.height) (s.y + s.height) - max r.y s.y) := if_pos ⟨hx, hy⟩
    rw [hrect]
    unfold FitsInt at *
    obtain ⟨h₁, h₂, h₃, h₄⟩ := hspec (by omega) (by omega) (by omega) (by omega) (by omega) (by omega)
      (by omega) (by omega)
    exact ⟨h₁, h₂, by omega, by omega⟩
  intersect_of_apart r s h := by
    have hrect : r.intersect s = IntRect.make 0 0 0 0 := if_neg h
    rw [hrect]
    rfl
  inset_spec r i htop hbottom hleft hright hwidth hheight := by
    obtain ⟨hrx, hrw, hrr⟩ := r.fits_x
    obtain ⟨hry, hrh, hrb⟩ := r.fits_y
    unfold FitsInt at *
    refine IntRect.make_spec ?_ ?_ (by omega) (by omega) ?_ ?_ ?_ ?_ <;> unfold FitsInt <;> omega
  insetsIsEmpty_iff _ := decide_eq_true_iff

/-! ### The window -/

def clamp (v lo hi : Int) : Int := if v < lo then lo else if hi < v then hi else v

def kMinWidth : Int := 0

def kMinHeight : Int := 0

def clampSegmentStart (start len lo hi : Int) : Option Int := do
  let start := clamp start lo hi
  let stop ← checkedInt (start + len)
  let excess ← checkedInt (stop - hi)
  if excess > 0 then checkedInt (start - excess) else some start

variable (G : GfxGeometry)

def makeVisibleOnScreenRect (rect screen : G.Rect) : Option G.Rect := do
  let width := clamp (G.width rect) kMinWidth (G.width screen)
  let height := clamp (G.height rect) kMinHeight (G.height screen)
  let rightBorder ← checkedInt (G.x screen + G.width screen)
  let x ← clampSegmentStart (G.x rect) width (G.x screen) rightBorder
  let bottomBorder ← checkedInt (G.y screen + G.height screen)
  let y ← clampSegmentStart (G.y rect) height (G.y screen) bottomBorder
  return G.rect x y width height

namespace GfxGeometry

variable {G}

/-- The first rectangle lies inside the second one. -/
def Inside (r s : G.Rect) : Prop :=
  (G.x s ≤ G.x r ∧ G.x r + G.width r ≤ G.x s + G.width s) ∧
    G.y s ≤ G.y r ∧ G.y r + G.height r ≤ G.y s + G.height s

/-- The rectangle that is as large as `rect` and `screen` permit and inside `screen` next to `rect`. -/
def fitted (rect screen : G.Rect) : G.Rect :=
  G.rect
    (Segment.place (G.x screen) (G.x screen + G.width screen) (min (G.width rect) (G.width screen))
      (G.x rect))
    (Segment.place (G.y screen) (G.y screen + G.height screen) (min (G.height rect) (G.height screen))
      (G.y rect))
    (min (G.width rect) (G.width screen)) (min (G.height rect) (G.height screen))

variable {rect screen : G.Rect}

lemma fitsInt_place {lo len size : Int} (start : Int) (hlo : FitsInt lo) (hhi : FitsInt (lo + size))
    (hlen : 0 ≤ len) (hle : len ≤ size) :
    FitsInt (Segment.place lo (lo + size) len start) ∧
      FitsInt (Segment.place lo (lo + size) len start + len) := by
  have hmin : lo ≤ Segment.place lo (lo + size) len start := le_place
  have hmax : Segment.place lo (lo + size) len start + len ≤ lo + size :=
    place_add_le (Int.add_le_add_left hle lo)
  unfold FitsInt at *
  omega

variable (rect screen) in
lemma fitted_spec :
    G.x (fitted rect screen) = Segment.place (G.x screen) (G.x screen + G.width screen)
        (min (G.width rect) (G.width screen)) (G.x rect) ∧
      G.y (fitted rect screen) = Segment.place (G.y screen) (G.y screen + G.height screen)
        (min (G.height rect) (G.height screen)) (G.y rect) ∧
      G.width (fitted rect screen) = min (G.width rect) (G.width screen) ∧
      G.height (fitted rect screen) = min (G.height rect) (G.height screen) := by
  obtain ⟨hsx, hsw, hsr⟩ := G.fits_x screen
  obtain ⟨hsy, hsh, hsb⟩ := G.fits_y screen
  have hw := le_min (G.width_nonneg rect) (G.width_nonneg screen)
  have hh := le_min (G.height_nonneg rect) (G.height_nonneg screen)
  have hwle := min_le_right (G.width rect) (G.width screen)
  have hhle := min_le_right (G.height rect) (G.height screen)
  have hx := fitsInt_place (G.x rect) hsx hsr hw hwle
  have hy := fitsInt_place (G.y rect) hsy hsb hh hhle
  unfold FitsInt at hsw hsh
  exact G.rect_spec _ _ _ _ hx.1 hy.1 hw hh hx.2 hy.2 (by unfold FitsInt; omega)
    (by unfold FitsInt; omega)

lemma inside_fitted : Inside (fitted rect screen) screen := by
  obtain ⟨hx, hy, hw, hh⟩ := fitted_spec rect screen
  have hwle := min_le_right (G.width rect) (G.width screen)
  have hhle := min_le_right (G.height rect) (G.height screen)
  unfold Inside
  rw [hx, hy, hw, hh]
  exact ⟨⟨le_place, place_add_le (Int.add_le_add_left hwle _)⟩,
    le_place, place_add_le (Int.add_le_add_left hhle _)⟩

lemma fitted_eq_self (h : Inside rect screen) : fitted rect screen = rect := by
  obtain ⟨⟨hx, hr⟩, hy, hb⟩ := h
  have hwle : G.width rect ≤ G.width screen := by omega
  have hhle : G.height rect ≤ G.height screen := by omega
  obtain ⟨hfx, hfy, hfw, hfh⟩ := fitted_spec rect screen
  rw [min_eq_left hwle] at hfx hfw
  rw [min_eq_left hhle] at hfy hfh
  refine G.ext _ _ ?_ ?_ hfw hfh
  · rw [hfx, place_eq_self hx hr]
  · rw [hfy, place_eq_self hy hb]

lemma abs_fitted_sub_le {other : G.Rect} (h : Inside other screen)
    (hw : G.width other = G.width (fitted rect screen))
    (hh : G.height other = G.height (fitted rect screen)) :
    |G.x (fitted rect screen) - G.x rect| ≤ |G.x other - G.x rect| ∧
      |G.y (fitted rect screen) - G.y rect| ≤ |G.y other - G.y rect| := by
  obtain ⟨hfx, hfy, hfw, hfh⟩ := fitted_spec rect screen
  obtain ⟨⟨hx, hr⟩, hy, hb⟩ := h
  rw [hw, hfw] at hr
  rw [hh, hfh] at hb
  rw [hfx, hfy]
  exact ⟨abs_place_sub_le hx hr, abs_place_sub_le hy hb⟩

end GfxGeometry

open GfxGeometry

/-- **The rectangle of a window on a screen**: it is inside the screen, as large as it was if the screen
is large enough, and no rectangle of that size inside the screen is nearer. -/
structure VisiblePlacement (rect screen result : G.Rect) : Prop where
  inside : Inside result screen
  width_eq : G.width result = min (G.width rect) (G.width screen)
  height_eq : G.height result = min (G.height rect) (G.height screen)
  eq_of_inside : Inside rect screen → result = rect
  again : makeVisibleOnScreenRect G result screen = some result
  nearest : ∀ other, Inside other screen → G.width other = G.width result →
    G.height other = G.height result →
      |G.x result - G.x rect| ≤ |G.x other - G.x rect| ∧
        |G.y result - G.y rect| ≤ |G.y other - G.y rect|

lemma clamp_zero_eq_min {v hi : Int} (hv : 0 ≤ v) : clamp v 0 hi = min v hi := by
  unfold clamp
  split <;> [skip; split] <;> omega

/-- **The start of a segment**: the nearest one with which the segment is between the borders, if the
sum of the upper border and the length is a number of the type `int`. -/
lemma clampSegmentStart_eq {len lo size : Int} (start : Int) (hlo : FitsInt lo) (hlen : 0 ≤ len)
    (hle : len ≤ size) (hsize : FitsInt size) (hfits : FitsInt (lo + size + len)) :
    clampSegmentStart start len lo (lo + size) = some (Segment.place lo (lo + size) len start) := by
  unfold FitsInt at hlo hfits hsize
  have hclamp : clamp start lo (lo + size) = max lo (min start (lo + size)) := by
    unfold clamp
    split <;> [skip; split] <;> omega
  simp only [clampSegmentStart, hclamp, bind_eq_bind]
  rw [checkedInt_of_fits (by unfold FitsInt; omega), bind_some,
    checkedInt_of_fits (by unfold FitsInt; omega), bind_some]
  unfold Segment.place
  split
  · rename_i hexcess
    rw [checkedInt_of_fits (by unfold FitsInt; omega)]
    congr 1
    omega
  · rename_i hexcess
    congr 1
    omega

variable {G}

lemma makeVisibleOnScreenRect_eq {rect screen : G.Rect}
    (hx : FitsInt (G.x screen + G.width screen + min (G.width rect) (G.width screen)))
    (hy : FitsInt (G.y screen + G.height screen + min (G.height rect) (G.height screen))) :
    makeVisibleOnScreenRect G rect screen = some (fitted rect screen) := by
  obtain ⟨hsx, hsw, hsr⟩ := G.fits_x screen
  obtain ⟨hsy, hsh, hsb⟩ := G.fits_y screen
  have hstartx := clampSegmentStart_eq (G.x rect) hsx
    (le_min (G.width_nonneg rect) (G.width_nonneg screen)) (min_le_right ..) hsw hx
  have hstarty := clampSegmentStart_eq (G.y rect) hsy
    (le_min (G.height_nonneg rect) (G.height_nonneg screen)) (min_le_right ..) hsh hy
  simp only [makeVisibleOnScreenRect, kMinWidth, kMinHeight, clamp_zero_eq_min (G.width_nonneg rect),
    clamp_zero_eq_min (G.height_nonneg rect), checkedInt_of_fits hsr, checkedInt_of_fits hsb,
    bind_eq_bind, bind_some, hstartx, hstarty]
  rfl

/-- **Windows become visible**: for every rectangle and every screen, if the sums of the right border
and the width, and of the bottom border and the height, are numbers of the type `int`, no addition
overflows, and the result is on the screen, as large as may be and as near as may be.

**Proof sketch.** Both axes are segments that are placed between borders. -/
theorem makeVisibleOnScreenRect_spec (G : GfxGeometry) (rect screen : G.Rect)
    (hx : FitsInt (G.x screen + G.width screen + min (G.width rect) (G.width screen)))
    (hy : FitsInt (G.y screen + G.height screen + min (G.height rect) (G.height screen))) :
    ∃ result, makeVisibleOnScreenRect G rect screen = some result ∧
      VisiblePlacement G rect screen result := by
  obtain ⟨-, -, hw, hh⟩ := fitted_spec rect screen
  refine ⟨fitted rect screen, makeVisibleOnScreenRect_eq hx hy, inside_fitted, hw, hh, fitted_eq_self,
    ?_, fun other => abs_fitted_sub_le⟩
  rw [makeVisibleOnScreenRect_eq ?_ ?_, fitted_eq_self inside_fitted]
  · rw [hw, min_assoc, min_self]
    exact hx
  · rw [hh, min_assoc, min_self]
    exact hy

theorem makeVisibleOnScreenRect_spec_leftScreen :
    ∃ result, makeVisibleOnScreenRect GfxGeometry.standard (IntRect.make (-500) 300 3000 3000)
        (IntRect.make (-1024) 0 1024 768) = some result ∧
      VisiblePlacement GfxGeometry.standard (IntRect.make (-500) 300 3000 3000)
        (IntRect.make (-1024) 0 1024 768) result :=
  makeVisibleOnScreenRect_spec GfxGeometry.standard _ _ (by decide) (by decide)

end CefCore.Browser
