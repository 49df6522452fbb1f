import Mathlib.Algebra.Group.Int.Defs
import Mathlib.Algebra.Group.Nat.Defs
import Mathlib.Tactic.Lemma

/-!
# Integers of a machine

Integers of 64 and of 32 bits: the conversion to an unsigned one, and results that may not fit into
a signed one.

## Main definitions

* `toSizeT`, `checked`, `wrapped`, `checkedInt`: conversions and checks.
-/

namespace MachineInt

/-- The conversion to `size_t`. -/
def toSizeT (z : Int) : Nat := (z % 2 ^ 64).toNat

lemma toSizeT_lt (z : Int) : toSizeT z < 2 ^ 64 := by
  unfold toSizeT
  omega

lemma toSizeT_natCast {n : Nat} (h : n < 2 ^ 64) : toSizeT n = n := by
  unfold toSizeT
  omega

lemma toSizeT_of_nonneg {z : Int} (hz : 0 ≤ z) (h : z < 2 ^ 64) : (toSizeT z : Int) = z := by
  unfold toSizeT
  omega

lemma toSizeT_of_neg {z : Int} (hz : z < 0) (h : -2 ^ 64 ≤ z) : (toSizeT z : Int) = z + 2 ^ 64 := by
  unfold toSizeT
  omega

/-- The number is one of an `int64_t`. -/
def FitsInt64 (z : Int) : Prop := -2 ^ 63 ≤ z ∧ z < 2 ^ 63

instance (z : Int) : Decidable (FitsInt64 z) := inferInstanceAs (Decidable (_ ∧ _))

/-- The result of an operation on signed integers, unless it overflows. -/
def checked (z : Int) : Option Int := if FitsInt64 z then some z else none

/-- The result of an operation on signed integers that wraps around. -/
def wrapped (z : Int) : Int := (z + 2 ^ 63) % 2 ^ 64 - 2 ^ 63

lemma wrapped_eq_self {z : Int} (h : FitsInt64 z) : wrapped z = z := by
  obtain ⟨hle, hlt⟩ := h
  unfold wrapped
  omega

lemma fitsInt64_toInt (z : Int64) : FitsInt64 z.toInt := ⟨z.le_toInt, z.toInt_lt⟩

/-- The number is one of an `int`. -/
def FitsInt (z : Int) : Prop := -2 ^ 31 ≤ z ∧ z < 2 ^ 31

instance (z : Int) : Decidable (FitsInt z) := inferInstanceAs (Decidable (_ ∧ _))

/-- The result of an operation on numbers of the type `int`, unless it overflows. -/
def checkedInt (z : Int) : Option Int := if FitsInt z then some z else none

lemma checkedInt_of_fits {z : Int} (h : FitsInt z) : checkedInt z = some z := if_pos h

lemma checkedInt_eq_some_iff {z w : Int} : checkedInt z = some w ↔ FitsInt z ∧ z = w := by
  unfold checkedInt
  split
  · rename_i h
    simp [h]
  · rename_i h
    simp [h]

end MachineInt
