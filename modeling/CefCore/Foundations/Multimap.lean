import CefCore.Foundations.ThreeWay
import Mathlib.Data.List.Sort

/-!
# Ordered multimaps

An ordered multimap keeps its entries sorted by their keys. A new entry is put behind those with an
equal key, so that entries with equal keys stay in the order in which they were inserted. Keys are
compared by a three-way comparison.

## Main results

* `equalRange_ofEntries`: the values of a key, in the order of their insertion.
-/

namespace Multimap

open List

variable {κ ν ρ : Type*} (compare : κ → κ → Int)

/-- An entry is inserted in front of the first one with a greater key. -/
def insert (entry : κ × ν) (entries : List (κ × ν)) : List (κ × ν) :=
  entries.orderedInsert (fun a b => compare a.1 b.1 < 0) entry

/-- The entries from the first one whose key is not less, up to the first one whose key is greater. -/
def equalRange (key : κ) (entries : List (κ × ν)) : List (κ × ν) :=
  (entries.dropWhile fun e => decide (compare e.1 key < 0)).takeWhile fun e =>
    decide (¬ compare key e.1 < 0)

def ofEntries (entries : List (κ × ν)) : List (κ × ν) :=
  entries.foldl (fun m entry => insert compare entry m) []

def Sorted (entries : List (κ × ν)) : Prop := entries.Pairwise fun a b => ¬ compare b.1 a.1 < 0

section

variable {compare} {rank : κ → ρ} [LinearOrder ρ] {entries : List (κ × ν)} {entry : κ × ν} {key : κ}

/-- The entries with a key equal to `key`. -/
abbrev withKey (compare : κ → κ → Int) (key : κ) (entries : List (κ × ν)) : List (κ × ν) :=
  entries.filter fun e => compare e.1 key = 0

lemma mem_insert {e : κ × ν} : e ∈ insert compare entry entries ↔ e = entry ∨ e ∈ entries :=
  mem_orderedInsert _

section

variable (h : ThreeWay.ComparesBy compare rank)
include h

lemma Sorted.insert (hs : Sorted compare entries)
    (entry : κ × ν) : Sorted compare (insert compare entry entries) := by
  induction entries with
  | nil => exact pairwise_singleton _ _
  | cons e entries ih =>
    obtain ⟨hfirst, hrest⟩ := pairwise_cons.mp hs
    rw [Multimap.insert, orderedInsert_cons]
    split
    · rename_i hlt
      have hle : ¬ compare e.1 entry.1 < 0 := by
        rw [h.neg_iff] at hlt ⊢
        exact hlt.not_gt
      refine pairwise_cons.mpr ⟨fun b hb => ?_, hs⟩
      rcases mem_cons.mp hb with rfl | hb
      · exact hle
      · have hbe := hfirst b hb
        rw [h.neg_iff] at hlt hbe ⊢
        exact (hlt.trans_le (not_lt.mp hbe)).not_gt
    · rename_i hnot
      refine pairwise_cons.mpr ⟨fun b hb => ?_, ih hrest⟩
      rcases mem_insert.mp hb with rfl | hb
      · exact hnot
      · exact hfirst b hb

lemma decide_compare_eq_zero (e : κ × ν) (key : κ) :
    decide (compare e.1 key = 0) = decide (rank e.1 = rank key) :=
  decide_eq_decide.mpr (h.eq_zero_iff e.1 key)

section

variable (hs : Sorted compare entries)
include hs

lemma takeWhile_eq_filter (hge : ∀ e ∈ entries, rank key ≤ rank e.1) :
    (entries.takeWhile fun e => decide (¬ compare key e.1 < 0)) = withKey compare key entries := by
  induction entries with
  | nil => rfl
  | cons e entries ih =>
    obtain ⟨hfirst, hrest⟩ := pairwise_cons.mp hs
    have hle : rank key ≤ rank e.1 := hge e mem_cons_self
    rw [takeWhile_cons, withKey, filter_cons, decide_compare_eq_zero h]
    by_cases hlt : rank key < rank e.1
    · -- the keys behind a greater one are greater
      have hnone : withKey compare key entries = [] := by
        refine filter_eq_nil_iff.mpr fun b hb hzero => ?_
        have heq := (h.eq_zero_iff b.1 key).mp (of_decide_eq_true hzero)
        have hbe := hfirst b hb
        rw [h.neg_iff, heq] at hbe
        exact hbe hlt
      simp [h.neg_iff, hlt, hlt.ne', hnone]
    · have heq : rank e.1 = rank key := le_antisymm (not_lt.mp hlt) hle
      have hnot : ¬ compare key e.1 < 0 := mt (h.neg_iff key e.1).mp hlt
      rw [if_pos (decide_eq_true hnot), if_pos (decide_eq_true heq),
        ih hrest fun b hb => hge b (mem_cons_of_mem e hb)]

/-- **The range of a key** holds exactly the entries with an equal key.

**Proof sketch.** Only lesser keys are skipped, and behind the first one that is not less there is none
that is. -/
theorem equalRange_eq_filter (key : κ) :
    equalRange compare key entries = withKey compare key entries := by
  unfold equalRange
  induction entries with
  | nil => rfl
  | cons e entries ih =>
    obtain ⟨hfirst, hrest⟩ := pairwise_cons.mp hs
    by_cases hlt : compare e.1 key < 0
    · rw [dropWhile_cons, if_pos (decide_eq_true hlt), ih hrest, withKey, withKey,
        filter_cons_of_neg (by simp [hlt.ne])]
    · rw [dropWhile_cons, if_neg (by simpa using hlt)]
      refine takeWhile_eq_filter h hs fun b hb => ?_
      rw [h.neg_iff, not_lt] at hlt
      rcases mem_cons.mp hb with rfl | hb
      · exact hlt
      · have hbe := hfirst b hb
        rw [h.neg_iff, not_lt] at hbe
        exact hlt.trans hbe

lemma withKey_insert (entry : κ × ν) (key : κ) :
    withKey compare key (insert compare entry entries) =
      withKey compare key entries ++ withKey compare key [entry] := by
  induction entries with
  | nil => rfl
  | cons e entries ih =>
    obtain ⟨hfirst, hrest⟩ := pairwise_cons.mp hs
    rw [insert, orderedInsert_cons]
    split
    · rename_i hlt
      by_cases hkey : compare entry.1 key = 0
      · -- all keys from here on are greater
        have hnone : withKey compare key (e :: entries) = [] := by
          refine filter_eq_nil_iff.mpr fun b hb hzero => ?_
          have heq := (h.eq_zero_iff b.1 key).mp (of_decide_eq_true hzero)
          rw [h.neg_iff, (h.eq_zero_iff entry.1 key).mp hkey, ← heq] at hlt
          rcases mem_cons.mp hb with rfl | hb
          · exact lt_irrefl _ hlt
          · exact hfirst b hb ((h.neg_iff b.1 e.1).mpr hlt)
        have happend : entry :: e :: entries = [entry] ++ (e :: entries) := rfl
        rw [happend, withKey, filter_append]
        exact (congrArg _ hnone).trans ((append_nil _).trans (congrArg (· ++ _) hnone).symm)
      · simp [withKey, hkey]
    · rw [withKey, withKey, filter_cons, filter_cons]
      split
      · exact congrArg (e :: ·) (ih hrest)
      · exact ih hrest

end

lemma sorted_foldl_insert (new : List (κ × ν)) (hs : Sorted compare entries) :
    Sorted compare (new.foldl (fun m entry => insert compare entry m) entries) := by
  induction new generalizing entries with
  | nil => exact hs
  | cons entry new ih => exact ih (hs.insert h entry)

lemma withKey_foldl_insert (new : List (κ × ν)) (hs : Sorted compare entries) (key : κ) :
    withKey compare key (new.foldl (fun m entry => insert compare entry m) entries) =
      withKey compare key entries ++ withKey compare key new := by
  induction new generalizing entries with
  | nil => exact (append_nil _).symm
  | cons entry new ih =>
    rw [foldl_cons, ih (hs.insert h entry), withKey_insert h hs, append_assoc, ← filter_append]
    rfl

theorem equalRange_ofEntries (entries : List (κ × ν))
    (key : κ) : equalRange compare key (ofEntries compare entries) =
      entries.filter fun e => compare e.1 key = 0 := by
  have hnil : Sorted compare ([] : List (κ × ν)) := List.Pairwise.nil
  rw [ofEntries, equalRange_eq_filter h (sorted_foldl_insert h entries hnil),
    withKey_foldl_insert h entries hnil]
  rfl

end

end

end Multimap
