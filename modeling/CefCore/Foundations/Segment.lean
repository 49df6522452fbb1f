import Mathlib.Algebra.Order.Group.Unbundled.Abs
import Mathlib.Algebra.Order.Group.Abs

/-!
# Segments of a line

A segment is given by its start and its length. It is to be placed between two borders, as near to
where it is as may be.

## Main results

* `place_eq_self`, `abs_place_sub_le`: the place is the nearest one.
-/

namespace Segment

variable {α : Type*} [AddCommGroup α] [LinearOrder α]

/-- The start of a segment of the length `len` that is moved between the borders `lo` and `hi`. -/
def place (lo hi len start : α) : α := max lo (min start (hi - len))

variable {lo hi len start : α}

lemma le_place : lo ≤ place lo hi len start := le_max_left ..

variable [IsOrderedAddMonoid α]

lemma place_add_le (h : lo + len ≤ hi) : place lo hi len start + len ≤ hi :=
  le_sub_iff_add_le.mp (max_le (le_sub_iff_add_le.mpr h) (min_le_right ..))

lemma place_eq_self (hlo : lo ≤ start) (hhi : start + len ≤ hi) : place lo hi len start = start := by
  unfold place
  rw [min_eq_left (le_sub_iff_add_le.mpr hhi), max_eq_right hlo]

lemma abs_place_sub_le {t : α} (hlo : lo ≤ t) (hhi : t + len ≤ hi) :
    |place lo hi len start - start| ≤ |t - start| := by
  have hhi' : t ≤ hi - len := le_sub_iff_add_le.mpr hhi
  rcases le_total start lo with hstart | hstart
  · -- the segment begins at the lower border, in front of `t`
    have hplace : place lo hi len start = lo := by
      rw [place, max_eq_left (le_trans (min_le_left ..) hstart)]
    rw [hplace, abs_of_nonneg (sub_nonneg.mpr hstart),
      abs_of_nonneg (sub_nonneg.mpr (hstart.trans hlo))]
    exact sub_le_sub_right hlo start
  · rcases le_total start (hi - len) with hend | hend
    · rw [place_eq_self hstart (le_sub_iff_add_le.mp hend), sub_self, abs_zero]
      exact abs_nonneg _
    · -- the segment ends at the upper border, behind `t`
      have hplace : place lo hi len start = hi - len := by
        rw [place, min_eq_right hend, max_eq_right (hlo.trans hhi')]
      rw [hplace, abs_of_nonpos (sub_nonpos.mpr hend),
        abs_of_nonpos (sub_nonpos.mpr (hhi'.trans hend))]
      exact neg_le_neg (sub_le_sub_right hhi' start)

end Segment
