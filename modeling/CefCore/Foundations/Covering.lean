import Mathlib.Data.List.Basic

/-!
# Lists that stand for the parts of another list

A list `l` is cut into parts, one behind the other, and each element of a list `bs` stands for one of
them. No element of `l` is left out, and none is in two parts.

## Main results

* `Covers.replace`: an element takes the place of another one.
-/

namespace Covering

open List

variable {α β γ δ : Type*} {R : β → List α → Prop} {bs cs : List β} {as : List α}

/-- The elements of the one list stand for the parts of the other, in their order. -/
inductive Covers (R : β → List α → Prop) : List β → List α → Prop where
  | nil : Covers R [] []
  | cons {b : β} {part : List α} {bs : List β} {as : List α} (head : R b part)
      (tail : Covers R bs as) : Covers R (b :: bs) (part ++ as)

lemma covers_map {f : α → β} (h : ∀ a, R (f a) [a]) : ∀ as : List α, Covers R (as.map f) as
  | [] => .nil
  | a :: as => .cons (h a) (covers_map h as)

lemma Covers.append {as' : List α} (h : Covers R bs as) (h' : Covers R cs as') :
    Covers R (bs ++ cs) (as ++ as') := by
  induction h with
  | nil => exact h'
  | cons head _ ih =>
    rw [append_assoc]
    exact .cons head ih

lemma Covers.of_append : ∀ {bs : List β} {as : List α}, Covers R (bs ++ cs) as →
    ∃ front back, as = front ++ back ∧ Covers R bs front ∧ Covers R cs back
  | [], as, h => ⟨[], as, rfl, .nil, h⟩
  | b :: bs, _, h => by
    cases h with
    | @cons _ part _ _ head tail =>
      obtain ⟨front, back, rfl, hfront, hback⟩ := tail.of_append
      exact ⟨part ++ front, back, (append_assoc ..).symm, .cons head hfront, hback⟩

/-- **Replacement**: what stands for the same part may be put in the place of some elements. -/
lemma Covers.replace {old new pre post : List β}
    (hnew : ∀ part, Covers R old part → Covers R new part)
    (h : Covers R (pre ++ (old ++ post)) as) : Covers R (pre ++ (new ++ post)) as := by
  obtain ⟨front, rest, rfl, hfront, hrest⟩ := h.of_append
  obtain ⟨part, back, rfl, hpart, hback⟩ := hrest.of_append
  exact hfront.append ((hnew part hpart).append hback)

lemma Covers.map {S : γ → List α → Prop} {f : β → γ} (hf : ∀ b part, R b part → S (f b) part)
    (h : Covers R bs as) : Covers S (bs.map f) as := by
  induction h with
  | nil => exact .nil
  | cons head _ ih => exact .cons (hf _ _ head) ih

lemma Covers.exists_of_mem {b : β} (h : Covers R bs as) (hb : b ∈ bs) :
    ∃ part, R b part ∧ part ⊆ as := by
  induction h with
  | nil => exact absurd hb not_mem_nil
  | @cons c part bs as head tail ih =>
    rcases mem_cons.mp hb with rfl | hb
    · exact ⟨part, head, subset_append_left part as⟩
    · obtain ⟨part', hpart', hsub⟩ := ih hb
      exact ⟨part', hpart', List.Subset.trans hsub (subset_append_right part as)⟩

lemma Covers.flatMap_eq {f : β → List δ} {g : α → δ}
    (hf : ∀ b part, R b part → f b = part.map g) (h : Covers R bs as) : bs.flatMap f = as.map g := by
  induction h with
  | nil => rfl
  | cons head _ ih => rw [flatMap_cons, hf _ _ head, ih, map_append]

def Slot (R : β → List α → Prop) : Option β → List α → Prop
  | some b, part => R b part
  | none, part => part = []

lemma Covers.filterMap_slots : ∀ {slots : List (Option β)} {as : List α},
    Covers (Slot R) slots as → Covers R (slots.filterMap id) as
  | [], _, .nil => .nil
  | none :: _, _, .cons head tail => by
    cases head
    exact tail.filterMap_slots
  | some _ :: _, _, .cons head tail => .cons head tail.filterMap_slots

end Covering
