import Mathlib.Data.List.Perm.Basic

/-!
# Pools of posted tasks

Work that has been posted to other threads, and callbacks that have been given away, are a list of
items of which any one may be next. What is said about such a pool does not depend on the order of
its items. An item may carry something, say the callback that is run in the end; what a pool carries
in all is the list `pool.filterMap carried`.

## Main definitions

* `TaskPool.pick`: an item, and the rest of the pool.
-/

namespace TaskPool

open List Option

variable {α β : Type*}

def pick (pool : List α) (i : Nat) : Option (α × List α) :=
  pool[i]?.map fun x => (x, pool.eraseIdx i)

section Pick

variable {pool rest : List α} {i : Nat} {x : α}

section

variable (h : pick pool i = some (x, rest))
include h

lemma perm_of_pick : pool.Perm (x :: rest) := by
  obtain ⟨y, hy, heq⟩ := map_eq_some_iff.mp h
  cases heq
  obtain ⟨hlt, rfl⟩ := List.getElem?_eq_some_iff.mp hy
  exact (getElem_cons_eraseIdx_perm hlt).symm

lemma mem_of_pick : x ∈ pool :=
  (perm_of_pick h).mem_iff.mpr mem_cons_self

lemma subset_of_pick : rest ⊆ pool :=
  fun _ hy => (perm_of_pick h).mem_iff.mpr (mem_cons_of_mem _ hy)

end

lemma carried_perm_of_pick (carried : α → Option β) (h : pick pool i = some (x, rest)) :
    (pool.filterMap carried).Perm ((carried x).toList ++ rest.filterMap carried) := by
  have hperm := (perm_of_pick h).filterMap carried
  cases hx : carried x with
  | none => rwa [filterMap_cons_none hx] at hperm
  | some y => rwa [filterMap_cons_some hx] at hperm

variable {carried : α → Option β}

section

variable (h : pick pool i = some (x, rest))
include h

lemma carried_of_pick {y : β} (hx : carried x = some y)
    (hone : (pool.filterMap carried).length ≤ 1) :
    pool.filterMap carried = [y] ∧ rest.filterMap carried = [] := by
  have hperm := carried_perm_of_pick carried h
  rw [hx, toList_some, singleton_append] at hperm
  have hnil : rest.filterMap carried = [] := by
    have hlength := hperm.length_eq
    rw [length_cons] at hlength
    exact length_eq_zero_iff.mp (by omega)
  rw [hnil] at hperm
  exact ⟨perm_singleton.mp hperm, hnil⟩

lemma carried_of_pick_none (hx : carried x = none) (hone : (pool.filterMap carried).length ≤ 1) :
    rest.filterMap carried = pool.filterMap carried := by
  have hperm := carried_perm_of_pick carried h
  rw [hx, toList_none, nil_append] at hperm
  match hpool : pool.filterMap carried with
  | [] => rw [hpool] at hperm; exact perm_nil.mp hperm.symm
  | [y] => rw [hpool] at hperm; exact perm_singleton.mp hperm.symm
  | _ :: _ :: _ => rw [hpool] at hone; simp at hone

lemma carried_rest_length_le :
    (rest.filterMap carried).length ≤ (pool.filterMap carried).length := by
  rw [(carried_perm_of_pick carried h).length_eq, length_append]
  exact Nat.le_add_left _ _

lemma carried_replace {x' : α} (hx : carried x' = carried x) :
    ((rest ++ [x']).filterMap carried).Perm (pool.filterMap carried) := by
  have hperm : (rest ++ [x']).Perm (x' :: rest) := perm_append_singleton x' rest
  refine (hperm.filterMap carried).trans ?_
  refine List.Perm.trans ?_ (carried_perm_of_pick carried h).symm
  rw [← hx]
  cases hx' : carried x' with
  | none => rw [filterMap_cons_none hx']; exact List.Perm.refl _
  | some y => rw [filterMap_cons_some hx']; exact List.Perm.refl _

end

end Pick

end TaskPool
