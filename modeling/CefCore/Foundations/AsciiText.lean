import Mathlib.Data.List.DropRight
import Mathlib.Data.List.Infix

/-!
# Texts of bytes

Texts that are split at a separator and trimmed, and texts that are compared without regard to the
case of ASCII letters, as the base library does it.

## Main results

* `mem_splitString_iff`: what splitting and trimming gives.
-/

open List

namespace List

variable {α : Type} {p : α → Bool}

lemma exists_first_separator (p : α → Bool) : ∀ l : List α, ∃ first,
    (∀ x ∈ first, p x = false) ∧ (l = first ∨ ∃ s rest, p s = true ∧ l = first ++ s :: rest)
  | [] => ⟨[], by simp⟩
  | x :: l => by
    cases hx : p x with
    | true => exact ⟨[], by simp, .inr ⟨x, l, hx, rfl⟩⟩
    | false =>
      obtain ⟨first, hfirst, hl⟩ := exists_first_separator p l
      refine ⟨x :: first, by simpa [hx] using hfirst, ?_⟩
      rcases hl with rfl | ⟨s, rest, hs, rfl⟩
      · exact .inl rfl
      · exact .inr ⟨s, rest, hs, rfl⟩

lemma exists_append_of_mem_splitOnP {w : List α} : ∀ {l : List α}, w ∈ l.splitOnP p →
    (∀ x ∈ w, p x = false) ∧ ∃ a b, l = a ++ w ++ b ∧
      (∀ x ∈ a.getLast?, p x = true) ∧ ∀ x ∈ b.head?, p x = true
  | l, hw => by
    obtain ⟨first, hfirst, rfl | ⟨s, rest, hs, rfl⟩⟩ := exists_first_separator p l
    · rw [splitOnP_eq_singleton hfirst, mem_singleton] at hw
      subst hw
      exact ⟨hfirst, [], [], by simp⟩
    · rw [splitOnP_append_cons_of_forall_mem hfirst s hs, mem_cons] at hw
      rcases hw with rfl | hw
      · exact ⟨hfirst, [], s :: rest, by simp [hs]⟩
      · obtain ⟨hpiece, a, b, rfl, ha, hb⟩ := exists_append_of_mem_splitOnP hw
        refine ⟨hpiece, first ++ s :: a, b, by simp, ?_, hb⟩
        rw [getLast?_append_cons]
        cases a with
        | nil => simpa using hs
        | cons y a => simpa using ha
termination_by l => l.length

/-- **The pieces of a list that is split** are those between two separators, or between a separator
and an end of the list. -/
theorem mem_splitOnP_iff {w l : List α} :
    w ∈ l.splitOnP p ↔ (∀ x ∈ w, p x = false) ∧ ∃ a b, l = a ++ w ++ b ∧
      (∀ x ∈ a.getLast?, p x = true) ∧ ∀ x ∈ b.head?, p x = true := by
  refine ⟨exists_append_of_mem_splitOnP, ?_⟩
  rintro ⟨hpiece, a, b, rfl, ha, hb⟩
  have hfront : w ∈ (w ++ b).splitOnP p := by
    cases b with
    | nil => rw [append_nil, splitOnP_eq_singleton hpiece, mem_singleton]
    | cons s b =>
      rw [splitOnP_append_cons_of_forall_mem hpiece s (hb s rfl)]
      exact mem_cons_self
  rcases eq_nil_or_concat a with rfl | ⟨a, s, rfl⟩
  · exact hfront
  · have hs : p s = true := ha s (by simp)
    rw [concat_eq_append, append_assoc, append_assoc, singleton_append, splitOnP_append_cons _ _ hs]
    exact mem_append_right _ hfront

lemma mem_of_mem_intercalate {sep : List α} {pieces : List (List α)} {x : α}
    (h : x ∈ sep.intercalate pieces) : x ∈ sep ∨ ∃ piece ∈ pieces, x ∈ piece := by
  induction pieces with
  | nil => exact nomatch h
  | cons piece pieces ih =>
    by_cases hnil : pieces = []
    · subst hnil
      rw [intercalate_singleton] at h
      exact .inr ⟨piece, mem_singleton_self piece, h⟩
    · rw [intercalate_cons_of_ne_nil hnil, mem_append, mem_append] at h
      rcases h with (h | h) | h
      · exact .inr ⟨piece, mem_cons_self, h⟩
      · exact .inl h
      · exact (ih h).imp_right fun ⟨other, hother, hx⟩ => ⟨other, mem_cons_of_mem piece hother, hx⟩

lemma length_splitOnP_eq (p : α → Bool) (l : List α) : (l.splitOnP p).length = l.countP p + 1 := by
  induction l with
  | nil => rfl
  | cons x l ih =>
    rw [splitOnP_cons_eq_if_modifyHead, countP_cons]
    split
    · rw [length_cons, ih]
    · rw [length_modifyHead, ih, Nat.add_zero]

lemma splitOnP_flatMap_append {sep : α} (hsep : p sep = true) {pieces : List (List α)}
    (h : ∀ piece ∈ pieces, ∀ x ∈ piece, p x = false) :
    (pieces.flatMap fun piece => piece ++ [sep]).splitOnP p = pieces ++ [[]] := by
  induction pieces with
  | nil => rfl
  | cons piece pieces ih =>
    rw [flatMap_cons, append_assoc, singleton_append,
      splitOnP_append_cons_of_forall_mem (h piece mem_cons_self) sep hsep,
      ih fun q hq => h q (mem_cons_of_mem piece hq), cons_append]

end List

namespace AsciiText

/-- `base::IsAsciiWhitespace`. -/
def isWhitespace (b : UInt8) : Bool := b = 32 || (9 ≤ b && b ≤ 13)

/-- `base::ToLowerASCII`. -/
def toLower (b : UInt8) : UInt8 := if 65 ≤ b && b ≤ 90 then b + 32 else b

/-- `base::TrimWhitespaceASCII`, on both sides. -/
def trimWhitespace (s : List UInt8) : List UInt8 :=
  (s.dropWhile isWhitespace).rdropWhile isWhitespace

/-- `base::SplitString`, with the pieces trimmed and the empty ones left out. -/
def splitString (s : List UInt8) (separator : UInt8) : List (List UInt8) :=
  ((s.splitOnP (· == separator)).map trimWhitespace).filter (· ≠ [])

/-- `base::EqualsCaseInsensitiveASCII`. -/
def equalsCaseInsensitive (s t : List UInt8) : Bool := s.map toLower = t.map toLower

/-- `base::EndsWith`, without regard to case. -/
def endsWith (s t : List UInt8) : Bool :=
  if s.length < t.length then false else equalsCaseInsensitive (s.drop (s.length - t.length)) t

/-! ### Comparison without regard to case -/

def SameLetters (s t : List UInt8) : Prop := s.map toLower = t.map toLower

lemma equalsCaseInsensitive_iff {s t : List UInt8} :
    equalsCaseInsensitive s t = true ↔ SameLetters s t := decide_eq_true_iff

lemma SameLetters.length_eq {s t : List UInt8} (h : SameLetters s t) : s.length = t.length := by
  simpa using congrArg List.length h

lemma endsWith_iff {s t : List UInt8} :
    endsWith s t = true ↔ ∃ front back, s = front ++ back ∧ SameLetters back t := by
  unfold endsWith
  constructor
  · intro h
    split at h
    · cases h
    · exact ⟨_, _, (take_append_drop _ _).symm, equalsCaseInsensitive_iff.mp h⟩
  · rintro ⟨front, back, rfl, hback⟩
    have hlength := hback.length_eq
    rw [length_append, if_neg (by omega), hlength, Nat.add_sub_cancel, drop_left]
    exact equalsCaseInsensitive_iff.mpr hback

/-! ### Entries -/

/-- `w` without the blanks at its ends is `e`, which is not empty. -/
def Trims (w e : List UInt8) : Prop :=
  e ≠ [] ∧ (∀ b ∈ e.head?, isWhitespace b = false) ∧ (∀ b ∈ e.getLast?, isWhitespace b = false) ∧
    ∃ x y, w = x ++ e ++ y ∧ (∀ b ∈ x, isWhitespace b = true) ∧ ∀ b ∈ y, isWhitespace b = true

/-- `e` is an entry of a separated list: something is left of the piece between two separators, or
between a separator and an end of the text, when the blanks around it are taken away. -/
def IsEntry (s : List UInt8) (separator : UInt8) (e : List UInt8) : Prop :=
  ∃ a w b, s = a ++ w ++ b ∧ separator ∉ w ∧ (∀ x ∈ a.getLast?, x = separator) ∧
    (∀ x ∈ b.head?, x = separator) ∧ Trims w e

lemma dropWhile_append_of_head {p : UInt8 → Bool} {x t : List UInt8} (hx : ∀ b ∈ x, p b = true)
    (ht : ∀ b ∈ t.head?, p b = false) : (x ++ t).dropWhile p = t := by
  rw [dropWhile_append_of_pos hx]
  cases t with
  | nil => rfl
  | cons b t => exact dropWhile_cons_of_neg (by simp [ht b rfl])

lemma trims_iff {w e : List UInt8} : Trims w e ↔ trimWhitespace w = e ∧ e ≠ [] := by
  unfold trimWhitespace
  constructor
  · rintro ⟨hne, hhead, hlast, x, y, rfl, hx, hy⟩
    refine ⟨?_, hne⟩
    have hfront : ∀ b ∈ (e ++ y).head?, isWhitespace b = false := by
      rwa [head?_append_of_ne_nil _ hne]
    have hback : ((e ++ y).reverse).dropWhile isWhitespace = e.reverse := by
      rw [reverse_append]
      refine dropWhile_append_of_head (fun b hb => hy b (mem_reverse.mp hb)) ?_
      rwa [head?_reverse]
    rw [append_assoc, dropWhile_append_of_head hx hfront, List.rdropWhile, hback, reverse_reverse]
  · rintro ⟨rfl, hne⟩
    refine ⟨hne, fun b hb => ?_, fun b hb => ?_, w.takeWhile isWhitespace,
      (w.dropWhile isWhitespace).rtakeWhile isWhitespace, ?_,
      fun b hb => mem_takeWhile_imp hb, fun b hb => mem_rtakeWhile_imp hb⟩
    · -- the first byte is the one that the first loop stops at
      obtain ⟨rest, hrest⟩ := rdropWhile_prefix isWhitespace (w.dropWhile isWhitespace)
      have hhead := head?_dropWhile_not isWhitespace w
      rw [← hrest, head?_append_of_ne_nil _ hne, Option.mem_def.mp hb] at hhead
      exact hhead
    · have hlast := rdropWhile_last_not isWhitespace (w.dropWhile isWhitespace) hne
      rw [getLast?_eq_some_getLast hne, Option.mem_some_iff] at hb
      rw [← hb]
      exact Bool.eq_false_iff.mpr hlast
    · rw [append_assoc, rdropWhile_append_rtakeWhile, takeWhile_append_dropWhile]

theorem mem_splitString_iff {s e : List UInt8} {separator : UInt8} :
    e ∈ splitString s separator ↔ IsEntry s separator e := by
  unfold splitString IsEntry
  simp only [mem_filter, mem_map, mem_splitOnP_iff, decide_eq_true_eq, beq_iff_eq,
    beq_eq_false_iff_ne]
  constructor
  · rintro ⟨⟨w, ⟨hw, a, b, hs, ha, hb⟩, htrim⟩, hne⟩
    exact ⟨a, w, b, hs, fun hmem => hw separator hmem rfl, ha, hb, trims_iff.mpr ⟨htrim, hne⟩⟩
  · rintro ⟨a, w, b, hs, hw, ha, hb, htrims⟩
    obtain ⟨htrim, hne⟩ := trims_iff.mp htrims
    exact ⟨⟨w, ⟨fun x hx heq => hw (heq ▸ hx), a, b, hs, ha, hb⟩, htrim⟩, hne⟩

end AsciiText
