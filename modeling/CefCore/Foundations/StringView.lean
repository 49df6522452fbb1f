import Mathlib.Algebra.Group.Nat.Defs
import Mathlib.Data.List.Basic

/-!
# String views

Parsers that work on a `std::string_view` look for a byte from some position on, and take parts of the
text that are given by a position and a number of bytes. Both are of type `size_t`: a difference that
would be negative wraps around, and the greatest value stands for the rest of the text.

## Main definitions

* `StringView.find`, `StringView.substr`: the operations.
-/

def StringView.npos : Nat := 2 ^ 64 - 1

/-- A `std::string_view`. -/
structure StringView where
  bytes : List UInt8
  length_lt : bytes.length < StringView.npos

namespace StringView

open List

def literal (s : String) : List UInt8 := s.toList.map fun c => UInt8.ofNat c.toNat

/-- A difference of two sizes, which wraps around. -/
def sizeSub (a b : Nat) : Nat := if b ≤ a then a - b else a + 2 ^ 64 - b

/-- `std::string_view::find` for a text of one byte. There is no result where the source has `npos`. -/
def find (s : List UInt8) (c : UInt8) (pos : Nat) : Option Nat :=
  ((s.drop pos).findIdx? (· = c)).map (pos + ·)

/-- `std::string_view::substr`. There is no result for a position behind the end of the text, and neither
for a part that would go on behind the end, which the source cuts there. -/
def substr (s : List UInt8) (pos count : Nat) : Option (List UInt8) :=
  if s.length < pos then none
  else if count = npos then some (s.drop pos)
  else if s.length < pos + count then none
  else some ((s.drop pos).take count)

variable {a m r : List UInt8} {c : UInt8}

lemma find_append (h : c ∉ m) : find (a ++ (m ++ c :: r)) c a.length = some (a.length + m.length) := by
  have hindex : (m ++ c :: r).findIdx? (· = c) = some m.length := by
    rw [findIdx?_append, findIdx?_eq_none_iff.mpr]
    · simp [findIdx?_cons]
    · intro x hx
      exact decide_eq_false fun heq => h (heq ▸ hx)
  rw [find, drop_left, hindex]
  rfl

lemma find_eq_none (h : c ∉ r) : find (a ++ r) c a.length = none := by
  have hindex : r.findIdx? (· = c) = none :=
    findIdx?_eq_none_iff.mpr fun x hx => decide_eq_false fun heq => h (heq ▸ hx)
  rw [find, drop_left, hindex]
  rfl

lemma substr_append (h : m.length < npos) :
    substr (a ++ (m ++ r)) a.length (sizeSub (a.length + m.length) a.length) = some m := by
  have hcount : sizeSub (a.length + m.length) a.length = m.length := by
    rw [sizeSub, if_pos (Nat.le_add_right _ _), Nat.add_sub_cancel_left]
  rw [hcount, substr, if_neg, if_neg (Nat.ne_of_lt h), if_neg, drop_left, take_left]
  · simp only [length_append]
    omega
  · simp only [length_append]
    omega

lemma substr_rest : substr (a ++ r) a.length npos = some r := by
  rw [substr, if_neg, if_pos rfl, drop_left]
  rw [length_append]
  omega

/-- **The rest of a text without its last byte.** If there is no rest then the number of bytes wraps
around to `npos`. -/
lemma substr_init (hlt : (a ++ r).length < npos) (hne : a ++ r ≠ []) :
    substr (a ++ r) a.length (sizeSub (sizeSub (a ++ r).length 1) a.length) = some r.dropLast := by
  have hpos : 0 < (a ++ r).length := length_pos_iff.mpr hne
  have hsize : sizeSub (a ++ r).length 1 = (a ++ r).length - 1 := if_pos hpos
  have hnpos : npos + 1 = 2 ^ 64 := rfl
  rw [hsize, substr, if_neg (by rw [length_append]; omega), drop_left]
  rw [length_append] at hlt hpos ⊢
  by_cases hnil : r = []
  · subst hnil
    rw [length_nil, Nat.add_zero] at hpos
    have hcount : sizeSub (a.length - 1) a.length = npos := by
      rw [sizeSub, if_neg (by omega)]
      omega
    rw [length_nil, Nat.add_zero, if_pos hcount]
    rfl
  · have hlength := length_pos_iff.mpr hnil
    have hcount : sizeSub (a.length + r.length - 1) a.length = r.length - 1 := by
      rw [sizeSub, if_pos (by omega)]
      omega
    rw [hcount, if_neg (by omega), if_neg (by omega), dropLast_eq_take]

end StringView
