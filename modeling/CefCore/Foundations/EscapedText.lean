import Mathlib.Algebra.BigOperators.Group.List.Basic
import Mathlib.Algebra.Ring.Parity
import Mathlib.Data.List.DropRight

/-!
# Text with escapes

A text is split at separators. A separator behind an escape does not count, and neither does an escape
behind an escape. Text that is put into such a text has an escape written in front of each separator.
That protects a separator unless an escape stands there already.

## Main results

* `split_row`: texts that are escaped are found again, if no separator is exposed.
-/

namespace EscapedText

open List Nat

variable {α : Type*} [DecidableEq α] (esc sep : α)

/-- What comes behind `b` is escaped, where `escaped` says whether `b` is. -/
def escapes (escaped : Bool) (b : α) : Bool := decide (b = esc) && !escaped

def escapedAfter (escaped : Bool) (s : List α) : Bool := s.foldl (escapes esc) escaped

/-- A text is split, where `escaped` says whether its first element is escaped. -/
def splitFrom : Bool → List α → List (List α)
  | _, [] => [[]]
  | escaped, b :: s =>
    if b = sep ∧ escaped = false then [] :: splitFrom (escapes esc escaped b) s
    else (splitFrom (escapes esc escaped b) s).modifyHead (b :: ·)

def split (s : List α) : List (List α) := splitFrom esc sep false s

def separators : Bool → List α → Nat
  | _, [] => 0
  | escaped, b :: s =>
    (if b = sep ∧ escaped = false then 1 else 0) + separators (escapes esc escaped b) s

def escape (s : List α) : List α := s.flatMap fun b => if b = sep then [esc, sep] else [b]

/-- A separator of the text stands behind an odd number of escapes. -/
def Exposed (s : List α) : Prop :=
  ∃ a b, s = a ++ sep :: b ∧ Odd (a.rtakeWhile (· = esc)).length

def row (blank : α) (cells : List (List α)) : List α :=
  sep :: cells.flatMap fun cell => blank :: cell ++ [blank, sep]

variable {esc sep} {escaped : Bool} {s t : List α}

/-! ### Splitting -/

lemma splitFrom_cons (b : α) : splitFrom esc sep escaped (b :: s) =
    if b = sep ∧ escaped = false then [] :: splitFrom esc sep (escapes esc escaped b) s
    else (splitFrom esc sep (escapes esc escaped b) s).modifyHead (b :: ·) := rfl

lemma separators_nil : separators esc sep escaped [] = 0 := rfl

lemma separators_cons (b : α) : separators esc sep escaped (b :: s) =
    (if b = sep ∧ escaped = false then 1 else 0) +
      separators esc sep (escapes esc escaped b) s := rfl

lemma escapedAfter_append : escapedAfter esc escaped (s ++ t) =
    escapedAfter esc (escapedAfter esc escaped s) t := foldl_append

lemma length_splitFrom : (splitFrom esc sep escaped s).length = separators esc sep escaped s + 1 := by
  induction s generalizing escaped with
  | nil => rfl
  | cons b s ih =>
    rw [splitFrom_cons, separators_cons]
    split
    · rw [length_cons, ih, add_comm 1]
    · rw [length_modifyHead, ih, zero_add]

lemma separators_append : separators esc sep escaped (s ++ t) =
    separators esc sep escaped s + separators esc sep (escapedAfter esc escaped s) t := by
  induction s generalizing escaped with
  | nil => exact (zero_add _).symm
  | cons b s ih =>
    rw [cons_append, separators_cons, ih, separators_cons, add_assoc]
    rfl

lemma separators_of_not_mem (h : sep ∉ s) : separators esc sep escaped s = 0 := by
  induction s generalizing escaped with
  | nil => rfl
  | cons b s ih =>
    rw [mem_cons, not_or] at h
    rw [separators_cons, ih h.2, if_neg fun hb => h.1 hb.1.symm]

lemma splitFrom_append (h : separators esc sep escaped s = 0) : splitFrom esc sep escaped (s ++ t) =
    (splitFrom esc sep (escapedAfter esc escaped s) t).modifyHead (s ++ ·) := by
  induction s generalizing escaped with
  | nil => exact (congrFun modifyHead_id _).symm
  | cons b s ih =>
    rw [separators_cons, Nat.add_eq_zero_iff] at h
    have hnot : ¬ (b = sep ∧ escaped = false) := fun hsep => absurd h.1 (by rw [if_pos hsep]; decide)
    rw [cons_append, splitFrom_cons, if_neg hnot, ih h.2, modifyHead_modifyHead]
    rfl

/-! ### Escaping -/

lemma escape_of_not_mem (h : sep ∉ s) : escape esc sep s = s := by
  induction s with
  | nil => rfl
  | cons b s ih =>
    rw [mem_cons, not_or] at h
    rw [escape, flatMap_cons, ← escape, ih h.2, if_neg (Ne.symm h.1)]
    rfl

lemma mem_escape_iff {b : α} (hne : b ≠ esc) : b ∈ escape esc sep s ↔ b ∈ s := by
  have hpiece : ∀ c, b ∈ (if c = sep then [esc, sep] else [c]) ↔ b = c := by
    intro c
    split
    · rename_i hc
      rw [mem_cons, mem_singleton, hc]
      exact or_iff_right hne
    · exact mem_singleton
  simp [escape, mem_flatMap, hpiece]

lemma separators_escape_eq_zero_iff' (hne : sep ≠ esc) :
    separators esc sep escaped (escape esc sep s) = 0 ↔
      ∀ a b, s = a ++ sep :: b → escapedAfter esc escaped a = false := by
  induction s generalizing escaped with
  | nil => exact iff_of_true rfl fun a b h => nomatch (append_eq_nil_iff.mp h.symm).2
  | cons c s ih =>
    have hrest : (∀ a b, c :: s = a ++ sep :: b → escapedAfter esc escaped a = false) ↔
        (c = sep → escaped = false) ∧
          ∀ a b, s = a ++ sep :: b → escapedAfter esc (escapes esc escaped c) a = false := by
      constructor
      · intro h
        refine ⟨?_, ?_⟩
        · rintro rfl
          exact h [] s rfl
        · rintro a b rfl
          exact h (c :: a) b rfl
      · rintro ⟨hfirst, htail⟩ a b hs
        cases a with
        | nil => exact hfirst (cons.inj hs).1
        | cons d a =>
          obtain ⟨rfl, rfl⟩ := cons.inj hs
          exact htail a b rfl
    rw [hrest, ← ih, escape, flatMap_cons, ← escape, separators_append, Nat.add_eq_zero_iff]
    by_cases hc : c = sep
    · subst hc
      rw [if_pos rfl]
      cases escaped <;> simp [separators_cons, separators_nil, escapes, hne, hne.symm, escapedAfter]
    · rw [if_neg hc]
      simp [separators_cons, separators_nil, hc, escapedAfter]

lemma escapedAfter_eq_true_iff :
    escapedAfter esc false s = true ↔ Odd (s.rtakeWhile (· = esc)).length := by
  induction s using List.reverseRecOn with
  | nil => simp [escapedAfter]
  | append_singleton s b ih =>
    rw [escapedAfter_append]
    by_cases hb : b = esc
    · rw [rtakeWhile_concat_pos _ _ _ (by simpa using hb), length_append,
        length_singleton, odd_add_one, ← ih]
      simp [escapedAfter, escapes, hb]
    · rw [rtakeWhile_concat_neg _ _ _ (by simpa using hb)]
      simp [escapedAfter, escapes, hb]

theorem separators_escape_eq_zero_iff (hne : sep ≠ esc) :
    separators esc sep false (escape esc sep s) = 0 ↔ ¬ Exposed esc sep s := by
  rw [separators_escape_eq_zero_iff' hne, Exposed]
  push Not
  refine forall_congr' fun a => forall_congr' fun b => imp_congr_right fun _ => ?_
  rw [← escapedAfter_eq_true_iff, Bool.not_eq_true]

lemma exposed_append_iff (hne : sep ≠ esc) (h : sep ∉ t) :
    Exposed esc sep (s ++ t) ↔ Exposed esc sep s := by
  have happend : escape esc sep (s ++ t) = escape esc sep s ++ t := by
    rw [escape, flatMap_append, ← escape, ← escape, escape_of_not_mem h]
  rw [← not_iff_not, ← separators_escape_eq_zero_iff hne, happend, separators_append,
    separators_of_not_mem h, add_zero, separators_escape_eq_zero_iff hne]

/-! ### Rows -/

variable {blank : α} {cells : List (List α)}

theorem separators_row (hne : sep ≠ esc) (hesc : blank ≠ esc) (hsep : blank ≠ sep) :
    separators esc sep false (row sep blank cells) =
      cells.length + 1 + (cells.map (separators esc sep false)).sum := by
  have hcells : separators esc sep false (cells.flatMap fun cell => blank :: cell ++ [blank, sep]) =
      cells.length + (cells.map (separators esc sep false)).sum := by
    induction cells with
    | nil => rfl
    | cons cell cells ih =>
      have hafter : escapedAfter esc false (blank :: cell ++ [blank, sep]) = false := by
        rw [escapedAfter_append]
        simp [escapedAfter, escapes, hne]
      have hcell : separators esc sep false (blank :: cell ++ [blank, sep]) =
          1 + separators esc sep false cell := by
        rw [separators_append, separators_cons]
        simp [separators_cons, separators_nil, escapes, hesc, hsep, add_comm]
      rw [flatMap_cons, separators_append, hafter, ih, hcell, map_cons, sum_cons, length_cons]
      omega
  have hfirst : escapes esc false sep = false := by simp [escapes, hne]
  rw [row, separators_cons, hfirst, hcells, if_pos ⟨rfl, rfl⟩]
  omega

theorem split_row (hne : sep ≠ esc) (hesc : blank ≠ esc) (hsep : blank ≠ sep)
    (h : ∀ cell ∈ cells, separators esc sep false cell = 0) :
    split esc sep (row sep blank cells) =
      [] :: (cells.map fun cell => blank :: cell ++ [blank]) ++ [[]] := by
  have hfirst : escapes esc false sep = false := by simp [escapes, hne]
  have hcells : splitFrom esc sep false (cells.flatMap fun cell => blank :: cell ++ [blank, sep]) =
      (cells.map fun cell => blank :: cell ++ [blank]) ++ [[]] := by
    induction cells with
    | nil => rfl
    | cons cell cells ih =>
      have hcell : separators esc sep false (blank :: cell ++ [blank]) = 0 := by
        rw [separators_append, separators_cons]
        simp [separators_cons, separators_nil, escapes, hesc, hsep, h cell mem_cons_self]
      have hafter : escapedAfter esc false (blank :: cell ++ [blank]) = false := by
        rw [escapedAfter_append]
        simp [escapedAfter, escapes, hesc]
      have happend : (blank :: cell ++ [blank, sep]) ++
          (cells.flatMap fun cell => blank :: cell ++ [blank, sep]) =
          (blank :: cell ++ [blank]) ++
            sep :: cells.flatMap fun cell => blank :: cell ++ [blank, sep] := by simp
      rw [flatMap_cons, happend, splitFrom_append hcell, hafter, splitFrom_cons,
        if_pos ⟨rfl, rfl⟩, hfirst, ih fun c hc => h c (mem_cons_of_mem cell hc)]
      simp
  rw [split, row, splitFrom_cons, if_pos ⟨rfl, rfl⟩, hfirst, hcells]
  rfl

end EscapedText
