import Mathlib.Data.List.Basic

/-!
# The first element of a kind

A list is searched from the front, and the first element that meets a condition is changed, or taken
out of the list.

## Main results

* `filter_eraseP_of_find?`: the others stay.
-/

namespace FirstMatch

open List

variable {α β : Type*}

/-- The first element that meets `p` is changed. -/
def modifyFirst (p : α → Bool) (f : α → α) : List α → List α
  | [] => []
  | a :: l => if p a then f a :: l else a :: modifyFirst p f l

variable {p : α → Bool} {f : α → α}

lemma modifyFirst_cons (a : α) (l : List α) :
    modifyFirst p f (a :: l) = if p a then f a :: l else a :: modifyFirst p f l := rfl

lemma modify_findIdx?_eq : ∀ l : List α,
    (match l.findIdx? p with
      | some i => l.modify i f
      | none => l) = modifyFirst p f l
  | [] => rfl
  | a :: l => by
    rw [findIdx?_cons, modifyFirst_cons]
    by_cases ha : p a = true
    · rw [if_pos ha, if_pos ha]
      rfl
    · rw [if_neg ha, if_neg ha, ← modify_findIdx?_eq l]
      cases l.findIdx? p <;> rfl

lemma modifyFirst_id : ∀ l : List α, modifyFirst p id l = l
  | [] => rfl
  | a :: l => by
    rw [modifyFirst_cons, modifyFirst_id l]
    split <;> rfl

lemma modifyFirst_modifyFirst {g : α → α} (hf : ∀ a, p a = true → p (f a) = true) :
    ∀ l : List α, modifyFirst p g (modifyFirst p f l) = modifyFirst p (g ∘ f) l
  | [] => rfl
  | a :: l => by
    rw [modifyFirst_cons, modifyFirst_cons]
    by_cases ha : p a = true
    · rw [if_pos ha, if_pos ha, modifyFirst_cons, if_pos (hf a ha)]
      rfl
    · rw [if_neg ha, if_neg ha, modifyFirst_cons, if_neg ha, modifyFirst_modifyFirst hf l]

@[simp] lemma length_modifyFirst : ∀ l : List α, (modifyFirst p f l).length = l.length
  | [] => rfl
  | a :: l => by
    rw [modifyFirst_cons]
    split
    · rfl
    · rw [length_cons, length_modifyFirst l, length_cons]

lemma map_modifyFirst {g : α → β} (h : ∀ a, g (f a) = g a) :
    ∀ l : List α, (modifyFirst p f l).map g = l.map g
  | [] => rfl
  | a :: l => by
    rw [modifyFirst_cons]
    split
    · rw [map_cons, h, map_cons]
    · rw [map_cons, map_modifyFirst h l, map_cons]

lemma modifyFirst_concat (b : α) : ∀ l : List α, modifyFirst p f (l ++ [b]) =
    if ∃ a ∈ l, p a = true then modifyFirst p f l ++ [b] else l ++ modifyFirst p f [b]
  | [] => by simp
  | a :: l => by
    rw [cons_append, modifyFirst_cons, modifyFirst_cons, modifyFirst_concat b l]
    by_cases ha : p a = true
    · rw [if_pos ha, if_pos ha, if_pos ⟨a, mem_cons_self, ha⟩, cons_append]
    · rw [if_neg ha, if_neg ha]
      by_cases hl : ∃ a ∈ l, p a = true
      · obtain ⟨c, hc, hpc⟩ := hl
        rw [if_pos ⟨c, hc, hpc⟩, if_pos ⟨c, mem_cons_of_mem a hc, hpc⟩, cons_append]
      · have hcons : ¬ ∃ c ∈ a :: l, p c = true := by
          rintro ⟨c, hc, hpc⟩
          rcases mem_cons.mp hc with rfl | hc
          · exact ha hpc
          · exact hl ⟨c, hc, hpc⟩
        rw [if_neg hl, if_neg hcons, cons_append]

/-! ### Taking out the first element -/

section Erase

variable {q : α → Bool} {a : α} {l : List α}

section

variable (h : l.find? p = some a)
include h

lemma exists_of_find? :
    p a = true ∧ ∃ l₁ l₂, (∀ b ∈ l₁, ¬ p b = true) ∧ l = l₁ ++ a :: l₂ ∧ l.eraseP p = l₁ ++ l₂ := by
  obtain ⟨ha, l₁, l₂, rfl, hl₁⟩ := find?_eq_some_iff_append.mp h
  have hl₁ : ∀ b ∈ l₁, ¬ p b = true := by simpa using hl₁
  refine ⟨ha, l₁, l₂, hl₁, rfl, ?_⟩
  rw [eraseP_append_right _ hl₁, eraseP_cons_of_pos ha]

lemma mem_eraseP_of_find? {b : α} (hb : b ∈ l) (hne : b ≠ a) : b ∈ l.eraseP p := by
  obtain ⟨-, l₁, l₂, -, rfl, herase⟩ := exists_of_find? h
  rw [herase, mem_append]
  rcases mem_append.mp hb with hb | hb
  · exact .inl hb
  · exact .inr ((mem_cons.mp hb).resolve_left hne)

lemma filter_eraseP_of_find? (hq : q a = false) : (l.eraseP p).filter q = l.filter q := by
  obtain ⟨-, l₁, l₂, -, hl, herase⟩ := exists_of_find? h
  have ha : ¬ q a = true := Bool.eq_false_iff.mp hq
  rw [herase, hl, filter_append, filter_append, filter_cons_of_neg ha]

lemma filter_eq_cons_of_find? (ha : q a = true)
    (hq : ∀ b, q b = true → p b = true) : l.filter q = a :: (l.eraseP p).filter q := by
  obtain ⟨-, l₁, l₂, hl₁, hl, herase⟩ := exists_of_find? h
  have hnone : l₁.filter q = [] :=
    filter_eq_nil_iff.mpr fun b hb hqb => hl₁ b hb (hq b hqb)
  rw [herase, hl, filter_append, filter_append, hnone, nil_append, nil_append,
    filter_cons_of_pos ha]

end

end Erase

end FirstMatch
