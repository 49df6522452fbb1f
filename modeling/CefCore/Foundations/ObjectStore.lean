import CefCore.Foundations.Run
import Mathlib.Data.List.Perm.Basic
import Mathlib.Data.List.Nodup

/-!
# A store of objects that are deleted by hand

Objects made with `new` and destroyed with `delete`, reached through raw pointers. A pointer is
the number of the object in the order of allocation; it is not used again, so that a read
through a stale pointer is always seen. The store keeps the pointers passed to `delete`, newest
first, and a flag that is raised by a read or a deletion of an object that is gone.

## Main results

* `ObjectStore.Sound.delete`: each object is deleted once.
-/

/-- An object and whether it is live. What was in a deleted object is kept for reasoning. -/
structure ObjectStore.Cell (α : Type*) where
  value : α
  live : Bool

/-- The objects in the order of allocation, the deletions, and the fault flag. -/
structure ObjectStore (α : Type*) where
  cells : List (ObjectStore.Cell α)
  deletes : List Nat
  fault : Bool

namespace ObjectStore

open List

variable {α : Type*}

def empty : ObjectStore α := ⟨[], [], false⟩

section

variable (s : ObjectStore α)

/-- `new`. -/
def alloc (a : α) : Nat × ObjectStore α :=
  (s.cells.length, { s with cells := s.cells ++ [⟨a, true⟩] })

def read (p : Nat) : Option α :=
  s.cells[p]?.bind fun c => if c.live then some c.value else none

def value (p : Nat) : Option α := s.cells[p]?.map Cell.value

def fail : ObjectStore α := { s with fault := true }

def delete (p : Nat) : ObjectStore α :=
  match s.read p with
  | none => { s with deletes := p :: s.deletes, fault := true }
  | some _ => { s with
      cells := s.cells.modify p fun c => { c with live := false }
      deletes := p :: s.deletes }

def livePointers : List Nat :=
  (List.range s.cells.length).filter fun p => (s.read p).isSome

end

/-- No stale pointer has been used, and the deleted objects are the ones passed to `delete`,
each once. -/
structure Sound (s : ObjectStore α) : Prop where
  no_fault : s.fault = false
  nodup : s.deletes.Nodup
  mem_deletes : ∀ p, p ∈ s.deletes ↔ ∃ c, s.cells[p]? = some c ∧ c.live = false

variable {s : ObjectStore α} {p q : Nat} {a : α}

lemma read_eq_some : s.read p = some a ↔ s.cells[p]? = some ⟨a, true⟩ := by
  unfold read
  cases h : s.cells[p]? with
  | none => simp
  | some c =>
    obtain ⟨value, live⟩ := c
    cases live <;> simp

lemma lt_of_read (h : s.read p = some a) : p < s.cells.length :=
  (List.getElem?_eq_some_iff.mp (read_eq_some.mp h)).1

lemma sound_empty : (empty : ObjectStore α).Sound where
  no_fault := rfl
  nodup := nodup_nil
  mem_deletes p := by simp [empty]

lemma read_alloc (s : ObjectStore α) (a : α) (q : Nat) :
    (s.alloc a).2.read q = if q = s.cells.length then some a else s.read q := by
  unfold alloc read
  rcases Nat.lt_trichotomy q s.cells.length with h | h | h
  · simp [getElem?_append_left h, Nat.ne_of_lt h]
  · simp [h]
  · have h₁ : (s.cells ++ [⟨a, true⟩])[q]? = none := by
      rw [getElem?_eq_none_iff]
      simp only [length_append, length_cons, length_nil]
      omega
    have h₂ : s.cells[q]? = none := by
      rw [getElem?_eq_none_iff]
      omega
    simp [h₁, h₂, Nat.ne_of_gt h]

lemma Sound.alloc (h : s.Sound) (a : α) : (s.alloc a).2.Sound where
  no_fault := h.no_fault
  nodup := h.nodup
  mem_deletes p := by
    rw [show (s.alloc a).2.deletes = s.deletes from rfl, h.mem_deletes p]
    constructor
    · rintro ⟨c, hc, hlive⟩
      refine ⟨c, ?_, hlive⟩
      show (s.cells ++ [_])[p]? = some c
      rw [List.getElem?_append_left (List.getElem?_eq_some_iff.mp hc).1]
      exact hc
    · rintro ⟨c, hc, hlive⟩
      rcases getElem?_concat_eq_some.mp hc with hc | ⟨-, rfl⟩
      · exact ⟨c, hc, hlive⟩
      · exact Bool.noConfusion hlive

section

variable (h : s.read p = some a)
include h

lemma delete_of_read : s.delete p = { s with
    cells := s.cells.modify p fun c => { c with live := false }
    deletes := p :: s.deletes } := by
  simp [delete, h]

lemma read_delete (q : Nat) : (s.delete p).read q = if q = p then none else s.read q := by
  rw [delete_of_read h]
  unfold read
  rw [getElem?_modify]
  by_cases hq : q = p
  · subst hq
    cases s.cells[q]? <;> simp
  · have hq' : p ≠ q := fun h => hq h.symm
    cases s.cells[q]? <;> simp [hq, hq']

lemma value_delete (q : Nat) :
    (s.delete p).cells[q]?.map Cell.value = s.cells[q]?.map Cell.value := by
  rw [delete_of_read h, getElem?_modify]
  cases s.cells[q]? with
  | none => simp
  | some c => by_cases hq : p = q <;> simp [hq]

lemma value_of_read : s.value p = some a := by
  rw [value, read_eq_some.mp h]
  rfl

end

@[simp] lemma value_delete_eq : (s.delete q).value p = s.value p := by
  cases h : s.read q with
  | some a => exact value_delete h p
  | none =>
    unfold delete
    rw [h]
    rfl

lemma value_alloc (s : ObjectStore α) (a : α) (q : Nat) :
    (s.alloc a).2.value q = if q = s.cells.length then some a else s.value q := by
  unfold alloc value
  rcases Nat.lt_trichotomy q s.cells.length with h | h | h
  · simp [getElem?_append_left h, Nat.ne_of_lt h]
  · simp [h]
  · have h₁ : (s.cells ++ [⟨a, true⟩])[q]? = none := by
      rw [getElem?_eq_none_iff]
      simp only [length_append, length_cons, length_nil]
      omega
    have h₂ : s.cells[q]? = none := by
      rw [getElem?_eq_none_iff]
      omega
    simp [h₁, h₂, Nat.ne_of_gt h]

lemma Sound.delete (h : s.Sound) (hp : s.read p = some a) : (s.delete p).Sound := by
  have hcell := read_eq_some.mp hp
  have hnot : p ∉ s.deletes := by
    intro hmem
    obtain ⟨c, hc, hlive⟩ := (h.mem_deletes p).mp hmem
    rw [hcell] at hc
    cases hc
    exact Bool.noConfusion hlive
  rw [delete_of_read hp]
  refine ⟨h.no_fault, nodup_cons.mpr ⟨hnot, h.nodup⟩, fun q => ?_⟩
  rw [mem_cons, h.mem_deletes q, getElem?_modify]
  by_cases hq : q = p
  · subst hq
    simp [hcell]
  · have hq' : p ≠ q := fun h => hq h.symm
    simp [hq, hq']

lemma Sound.count_deletes (h : s.Sound) {c : Cell α} (hc : s.cells[p]? = some c) :
    s.deletes.count p = if c.live then 0 else 1 := by
  cases hlive : c.live with
  | false =>
    have : p ∈ s.deletes := (h.mem_deletes p).mpr ⟨c, hc, hlive⟩
    simpa using count_eq_one_of_mem h.nodup this
  | true =>
    have : p ∉ s.deletes := by
      intro hmem
      obtain ⟨c', hc', hlive'⟩ := (h.mem_deletes p).mp hmem
      rw [hc] at hc'
      cases hc'
      rw [hlive] at hlive'
      exact Bool.noConfusion hlive'
    simpa using count_eq_zero_of_not_mem this

theorem length_livePointers {l : List Nat} (hnodup : l.Nodup)
    (hl : ∀ p, p ∈ l ↔ ∃ a, s.read p = some a) : s.livePointers.length = l.length := by
  have hrange : s.livePointers.Nodup := List.Nodup.filter _ nodup_range
  refine ((perm_ext_iff_of_nodup hrange hnodup).mpr fun p => ?_).length_eq
  rw [hl p, livePointers, mem_filter, mem_range, Option.isSome_iff_exists]
  constructor
  · rintro ⟨-, h⟩
    exact h
  · rintro ⟨a, ha⟩
    exact ⟨lt_of_read ha, a, ha⟩

end ObjectStore
