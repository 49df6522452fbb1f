import Mathlib.Algebra.BigOperators.Group.List.Lemmas
import Mathlib.Algebra.GroupWithZero.Nat
import Mathlib.Data.Finset.Dedup
import Mathlib.Data.Finset.Insert

/-!
# Grouping entries by key

A list of entries with keys is grouped if every key that occurs stands once, where it has occurred
first, with all its values in their order.

## Main results

* `groups_foldl_visit`: a loop groups the entries if it skips the keys that it has visited and takes
  all values of a new one at once.
-/

namespace Grouping

open List

variable {κ ν : Type*} [DecidableEq κ]

def valuesOf (entries : List (κ × ν)) (key : κ) : List ν :=
  (entries.filter (·.1 = key)).map (·.2)

/-- The groups are those of the entries: each key stands once, in the order of the first entries, with
all its values, and there are as many values as entries. -/
structure Groups (entries : List (κ × ν)) (groups : List (κ × List ν)) : Prop where
  keys_nodup : (groups.map (·.1)).Nodup
  mem_keys_iff : ∀ key, key ∈ groups.map (·.1) ↔ key ∈ entries.map (·.1)
  order : (groups.map (·.1)).Pairwise fun k l =>
    (entries.map (·.1)).idxOf k < (entries.map (·.1)).idxOf l
  values_eq : ∀ group ∈ groups, group.2 = valuesOf entries group.1
  total : (groups.map (·.2.length)).sum = entries.length

def visit (values : κ → List ν) (state : Finset κ × List (κ × List ν)) (key : κ) :
    Finset κ × List (κ × List ν) :=
  if key ∈ state.1 then state else (insert key state.1, state.2 ++ [(key, values key)])

/-! ### Keys in the order of their first occurrences -/

lemma eraseDups_concat (keys : List κ) (key : κ) : (keys ++ [key]).eraseDups =
    if key ∈ keys then keys.eraseDups else keys.eraseDups ++ [key] := by
  rw [eraseDups_append]
  split
  · rename_i hmem
    simp [List.removeAll, hmem]
  · rename_i hnot
    simp [List.removeAll, hnot, eraseDups_cons]

lemma nodup_eraseDups (keys : List κ) : keys.eraseDups.Nodup := by
  induction keys using List.reverseRecOn with
  | nil => exact nodup_nil
  | append_singleton keys key ih =>
    rw [eraseDups_concat]
    split
    · exact ih
    · rename_i hnot
      rw [nodup_append_comm, singleton_append, nodup_cons, mem_eraseDups]
      exact ⟨hnot, ih⟩

lemma pairwise_eraseDups (keys : List κ) :
    keys.eraseDups.Pairwise fun k l => keys.idxOf k < keys.idxOf l := by
  induction keys using List.reverseRecOn with
  | nil => exact List.Pairwise.nil
  | append_singleton keys key ih =>
    -- the keys that have occurred stay where they are
    have hold : keys.eraseDups.Pairwise fun k l =>
        (keys ++ [key]).idxOf k < (keys ++ [key]).idxOf l := by
      refine List.Pairwise.imp_of_mem (fun {k l} hk hl hlt => ?_) ih
      rwa [idxOf_append_of_mem (mem_eraseDups.mp hk), idxOf_append_of_mem (mem_eraseDups.mp hl)]
    rw [eraseDups_concat]
    split
    · exact hold
    · rename_i hnot
      refine pairwise_append.mpr ⟨hold, pairwise_singleton _ _, fun k hk l hl => ?_⟩
      rw [mem_singleton] at hl
      subst hl
      have hmem := mem_eraseDups.mp hk
      rw [idxOf_append_of_mem hmem, idxOf_append_of_notMem hnot]
      exact Nat.lt_add_right _ (idxOf_lt_length_of_mem hmem)

lemma sum_length_valuesOf (entries : List (κ × ν)) :
    (((entries.map (·.1)).eraseDups.map fun key => (valuesOf entries key).length)).sum =
      entries.length := by
  have hcount : ∀ key, (valuesOf entries key).length = (entries.map (·.1)).count key := by
    intro key
    rw [valuesOf, length_map, ← countP_eq_length_filter, count_eq_countP, countP_map]
    exact countP_congr fun e _ => by simp
  have hperm : (entries.map (·.1)).eraseDups.Perm (entries.map (·.1)).dedup :=
    (perm_ext_iff_of_nodup (nodup_eraseDups _) (nodup_dedup _)).mpr fun key => by
      rw [mem_eraseDups, mem_dedup]
  calc _ = ((entries.map (·.1)).eraseDups.map fun key => (entries.map (·.1)).count key).sum :=
        congrArg List.sum (map_congr_left fun key _ => hcount key)
    _ = ((entries.map (·.1)).dedup.map fun key => (entries.map (·.1)).count key).sum :=
        (hperm.map _).sum_eq
    _ = (entries.map (·.1)).length := sum_map_count_dedup_eq_length _
    _ = entries.length := length_map _

/-! ### The loop -/

lemma foldl_visit (values : κ → List ν) (keys : List κ) : keys.foldl (visit values) (∅, []) =
    (keys.toFinset, keys.eraseDups.map fun key => (key, values key)) := by
  induction keys using List.reverseRecOn with
  | nil => rfl
  | append_singleton keys key ih =>
    have hset : (keys ++ [key]).toFinset = insert key keys.toFinset :=
      Finset.ext fun k => by simp [or_comm]
    rw [foldl_append, ih, foldl_cons, foldl_nil, visit, eraseDups_concat, hset]
    by_cases hmem : key ∈ keys
    · rw [if_pos (mem_toFinset.mpr hmem), if_pos hmem,
        Finset.insert_eq_of_mem (mem_toFinset.mpr hmem)]
    · rw [if_neg (mt mem_toFinset.mp hmem), if_neg hmem, map_append]
      rfl

theorem groups_foldl_visit (entries : List (κ × ν)) :
    Groups entries ((entries.map (·.1)).foldl (visit (valuesOf entries)) (∅, [])).2 := by
  have hkeys : ((entries.map (·.1)).eraseDups.map fun key => (key, valuesOf entries key)).map (·.1) =
      (entries.map (·.1)).eraseDups := by
    rw [map_map]
    exact map_id _
  rw [foldl_visit]
  exact {
    keys_nodup := by
      rw [hkeys]
      exact nodup_eraseDups _
    mem_keys_iff := fun key => by
      rw [hkeys, mem_eraseDups]
    order := by
      rw [hkeys]
      exact pairwise_eraseDups _
    values_eq := fun group hgroup => by
      obtain ⟨key, -, rfl⟩ := mem_map.mp hgroup
      rfl
    total := by
      rw [map_map]
      exact sum_length_valuesOf entries }

end Grouping
