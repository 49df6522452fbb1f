import Mathlib.Data.Int.Basic

/-!
# Numbers in decimal

The decimal digits of a number as bytes of ASCII, and numbers that are read from them.

## Main results

* `toInt?_ofInt`: numbers are read as they are written.
-/

namespace Decimal

open List Option

def ofNat (n : Nat) : List UInt8 := (Nat.toDigits 10 n).map fun c => UInt8.ofNat c.toNat

def ofInt (i : Int) : List UInt8 := if i < 0 then 45 :: ofNat i.natAbs else ofNat i.natAbs

def isDigit (b : UInt8) : Bool := 48 ≤ b.toNat && b.toNat ≤ 57

/-- A number without a sign is read. -/
def toNat? (s : List UInt8) : Option Nat :=
  if s ≠ [] ∧ s.all isDigit then some (Nat.ofDigitChars 10 (s.map fun b => Char.ofNat b.toNat) 0)
  else none

def toInt? (s : List UInt8) : Option Int :=
  if s.head? = some 45 then (toNat? s.tail).map fun n : Nat => -(n : Int)
  else (toNat? s).map fun n : Nat => (n : Int)

lemma toNat_of_isDigit {c : Char} (h : c.isDigit = true) : 48 ≤ c.toNat ∧ c.toNat ≤ 57 := by
  simpa [Char.isDigit, UInt32.le_iff_toNat_le] using h

lemma isDigit_of_mem_ofNat {n : Nat} {b : UInt8} (h : b ∈ ofNat n) : isDigit b = true := by
  obtain ⟨c, hc, rfl⟩ := mem_map.mp h
  have hdigit := toNat_of_isDigit (Nat.isDigit_of_mem_toDigits (by decide) (by decide) hc)
  have hbyte : (UInt8.ofNat c.toNat).toNat = c.toNat :=
    UInt8.toNat_ofNat_of_lt (show c.toNat < 2 ^ 8 by omega)
  simp [isDigit, hbyte, hdigit]

lemma ofNat_ne_nil (n : Nat) : ofNat n ≠ [] := fun h =>
  Nat.toDigits_ne_nil (map_eq_nil_iff.mp h)

lemma toNat?_ofNat (n : Nat) : toNat? (ofNat n) = some n := by
  have hchars : (ofNat n).map (fun b => Char.ofNat b.toNat) = Nat.toDigits 10 n := by
    rw [ofNat, List.map_map]
    refine (map_congr_left fun c hc => ?_).trans (map_id _)
    have hdigit := toNat_of_isDigit (Nat.isDigit_of_mem_toDigits (by decide) (by decide) hc)
    have hbyte : (UInt8.ofNat c.toNat).toNat = c.toNat :=
      UInt8.toNat_ofNat_of_lt (show c.toNat < 2 ^ 8 by omega)
    show Char.ofNat (UInt8.ofNat c.toNat).toNat = c
    rw [hbyte, Char.ofNat_toNat]
  have hall : (ofNat n).all isDigit = true :=
    all_eq_true.mpr fun b hb => isDigit_of_mem_ofNat hb
  rw [toNat?, if_pos ⟨ofNat_ne_nil n, hall⟩, hchars, Nat.ofDigitChars_ten_toDigits]

lemma mem_ofInt {i : Int} {b : UInt8} (h : b ∈ ofInt i) : b = 45 ∨ isDigit b = true := by
  unfold ofInt at h
  split at h
  · exact (mem_cons.mp h).imp_right isDigit_of_mem_ofNat
  · exact .inr (isDigit_of_mem_ofNat h)

/-- **A number that is written is read back.** -/
theorem toInt?_ofInt (i : Int) : toInt? (ofInt i) = some i := by
  unfold ofInt
  split
  · rename_i hneg
    rw [toInt?, if_pos head?_cons, tail_cons, toNat?_ofNat, map_some, some_inj]
    omega
  · rename_i hpos
    have hhead : (ofNat i.natAbs).head? ≠ some 45 := by
      intro hhead
      have hdigit := isDigit_of_mem_ofNat (mem_of_head? hhead)
      exact absurd hdigit (by decide)
    rw [toInt?, if_neg hhead, toNat?_ofNat, map_some, some_inj]
    omega

end Decimal
