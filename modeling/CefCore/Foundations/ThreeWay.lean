import Mathlib.Data.Int.Order.Basic
import Mathlib.Data.Set.Function

/-!
# Three-way comparisons

A comparison in the manner of C returns a number whose sign tells which of its arguments is the
smaller one. Such a comparison comes from a key if it compares the keys of its arguments.

## Main results

* `ComparesBy.total_iff`: it is total if and only if its key tells elements apart.
-/

namespace ThreeWay

variable {α β : Type*} {compare : α → α → Int} {key : α → β} {S : Set α}

structure Total (compare : α → α → Int) (S : Set α) : Prop where
  eq_zero_iff : ∀ a ∈ S, ∀ b ∈ S, compare a b = 0 ↔ a = b
  swap : ∀ a ∈ S, ∀ b ∈ S, 0 < compare a b ↔ compare b a < 0
  trans : ∀ a ∈ S, ∀ b ∈ S, ∀ c ∈ S, compare a b < 0 → compare b c < 0 → compare a c < 0

structure ComparesBy [LT β] (compare : α → α → Int) (key : α → β) : Prop where
  neg_iff : ∀ a b, compare a b < 0 ↔ key a < key b
  pos_iff : ∀ a b, 0 < compare a b ↔ key b < key a

variable [LinearOrder β]

lemma ComparesBy.eq_zero_iff (h : ComparesBy compare key) (a b : α) :
    compare a b = 0 ↔ key a = key b := by
  have hneg := h.neg_iff a b
  have hpos := h.pos_iff a b
  constructor
  · intro hzero
    rw [hzero] at hneg hpos
    exact le_antisymm (not_lt.mp fun hlt => lt_irrefl _ (hpos.mpr hlt))
      (not_lt.mp fun hlt => lt_irrefl _ (hneg.mpr hlt))
  · intro heq
    rw [heq] at hneg hpos
    have hnotneg := mt hneg.mp (lt_irrefl _)
    have hnotpos := mt hpos.mp (lt_irrefl _)
    omega

/-- **A comparison that comes from a key** is a total order of exactly the sets on which the key is
injective. -/
theorem ComparesBy.total_iff (h : ComparesBy compare key) : Total compare S ↔ Set.InjOn key S := by
  constructor
  · intro htotal a ha b hb heq
    exact (htotal.eq_zero_iff a ha b hb).mp ((h.eq_zero_iff a b).mpr heq)
  · intro hinj
    constructor
    · intro a ha b hb
      rw [h.eq_zero_iff]
      exact ⟨hinj ha hb, congrArg key⟩
    · intro a _ b _
      rw [h.pos_iff, h.neg_iff]
    · intro a _ b _ c _ hab hbc
      rw [h.neg_iff] at hab hbc ⊢
      exact hab.trans hbc

end ThreeWay
