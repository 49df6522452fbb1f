import Mathlib.Data.List.Infix

/-!
# Marks in a text

A reader takes the first mark in a text. In a text that is put together from pieces, a mark that is
written may come behind marks that a piece brings with it.

## Main definitions

* `TextMarks.First`: the first mark in the text is the own one, if there is one at all.

## Main results

* `TextMarks.first_append_iff`: the first mark of two pieces, if no mark lies across the cut.
* `TextMarks.not_first_of_first`: a text has only one first mark.
-/

namespace TextMarks

open List

variable {α : Type*} {own w s t before after : List α} {others : List α → Prop}

/-- Each other mark in the text stands behind the own one. -/
def First (own : List α) (others : List α → Prop) (t : List α) : Prop :=
  ∀ w before after, others w → t = before ++ w ++ after → own <:+: before

/-- The word does not lie across the cut. -/
def Apart (w s t : List α) : Prop :=
  w ≠ [] ∧ ((∀ x ∈ t.head?, x ∉ w.tail) ∨ ∀ x ∈ s.getLast?, x ∉ w.dropLast)

lemma Apart.of_append (h : Apart w s t) {u v : List α} (ht : t = u ++ v) : Apart w s u := by
  refine ⟨h.1, h.2.imp_left fun hhead x hx => hhead x ?_⟩
  cases u with
  | nil => cases hx
  | cons y u => rw [ht]; exact hx

lemma occurs_append (hw : Apart w s t) (h : s ++ t = before ++ w ++ after) :
    (∃ rest, s = before ++ w ++ rest) ∨ ∃ rest, t = rest ++ w ++ after ∧ before = s ++ rest := by
  rcases append_eq_append_iff.mp h with ⟨rest, hs, ht⟩ | ⟨rest, hs, -⟩
  · rcases append_eq_append_iff.mp hs with ⟨first, rfl, hword⟩ | ⟨first, rfl, rfl⟩
    · cases rest with
      | nil => exact .inl ⟨[], by simp [hword]⟩
      | cons y rest =>
        cases first with
        | nil => exact .inr ⟨[], by rw [ht, hword]; rfl, by simp⟩
        | cons x first =>
          -- the word has something on both sides of the cut
          rcases hw.2 with hhead | hlast
          · exact absurd (by simp [hword]) (hhead y (by simp [ht]))
          · have hne := cons_ne_nil x first
            refine absurd ?_ (hlast ((x :: first).getLast hne) ?_)
            · rw [hword, dropLast_append_of_ne_nil (cons_ne_nil y rest)]
              exact mem_append_left _ (getLast_mem hne)
            · rw [getLast?_append, getLast?_eq_some_getLast hne]
              rfl
    · exact .inr ⟨first, ht, rfl⟩
  · exact .inl ⟨rest, hs⟩

/-- **The first mark of two pieces** is that of the first one, if it has one. -/
theorem first_append_iff (hown : Apart own s t) (hothers : ∀ w, others w → Apart w s t) :
    First own others (s ++ t) ↔ First own others s ∧ (own <:+: s ∨ First own others t) := by
  constructor
  · intro h
    refine ⟨fun w before after hw hs => h w before (after ++ t) hw (by simp [hs]), ?_⟩
    refine or_iff_not_imp_left.mpr fun hnot w before after hw ht => ?_
    obtain ⟨x, y, hxy⟩ := h w (s ++ before) after hw (by simp [ht])
    rcases occurs_append (hown.of_append (ht.trans (append_assoc _ _ _))) hxy.symm with
      ⟨rest, hs⟩ | ⟨rest, hbefore, -⟩
    · exact absurd ⟨x, rest, hs.symm⟩ hnot
    · exact ⟨rest, y, hbefore.symm⟩
  · rintro ⟨hs, ht⟩ w before after hw h
    rcases occurs_append (hothers w hw) h with ⟨rest, hrest⟩ | ⟨rest, hrest, rfl⟩
    · exact hs w before rest hw hrest
    · rcases ht with hinfix | ht
      · exact hinfix.trans (prefix_append s rest).isInfix
      · exact (ht w rest after hw hrest).trans (suffix_append s rest).isInfix

lemma first_of_length_lt {n : Nat} (hothers : ∀ w, others w → n ≤ w.length) (ht : t.length < n) :
    First own others t := by
  rintro w before after hw rfl
  have hlength := hothers w hw
  simp only [length_append] at ht
  omega

/-- **A text has only one first mark**: of two different marks one comes first.

**Proof sketch.** Each of them stands behind the other, which has a place further to the front. -/
theorem not_first_of_first {w w' : List α} {others others' : List α → Prop} (hne : w ≠ [])
    (hw : others' w) (hw' : others w') (h : First w others t)
    (h' : First w' others' t) : ¬ w <:+: t := by
  suffices hall : ∀ n before after, before.length = n → t ≠ before ++ w ++ after by
    rintro ⟨before, after, ht⟩
    exact hall _ before after rfl ht.symm
  intro n
  induction n using Nat.strong_induction_on with
  | _ n ih =>
    rintro before after rfl ht
    obtain ⟨x, y, hxy⟩ := h' w before after hw ht
    have ht' : t = x ++ w' ++ (y ++ w ++ after) := by simp [ht, ← hxy]
    obtain ⟨u, v, huv⟩ := h w' x _ hw' ht'
    have hlt : u.length < before.length := by
      have hlength := congrArg List.length hxy
      have hlength' := congrArg List.length huv
      have hpos := length_pos_of_ne_nil hne
      simp only [length_append] at hlength hlength'
      omega
    exact ih u.length hlt u (v ++ w' ++ y ++ w ++ after) rfl (ht'.trans (by simp [← huv]))

end TextMarks
