import Mathlib.Algebra.BigOperators.Group.List.Basic
import Mathlib.Algebra.GroupWithZero.Nat
import Mathlib.Data.List.AList

/-!
# The entries of association lists

An `AList` is looked up by its keys. These are the facts about what it holds as a whole: taking a key
out, or giving it another value, changes one entry.

## Main results

* `entries_perm_erase`, `sum_entries_insert`: the entries behind a change.
-/

namespace AList

open List

variable {α : Type} {β : α → Type} [DecidableEq α]

lemma entries_perm_erase {m : AList β} {a : α} {b : β a} (h : m.lookup a = some b) :
    m.entries.Perm (⟨a, b⟩ :: (m.erase a).entries) := by
  have hmem : ⟨a, b⟩ ∈ m.entries := AList.mem_lookup_iff.mp h
  obtain ⟨b', l₁, l₂, -, hentries, herase⟩ := exists_of_kerase (mem_keys_of_mem hmem)
  have hmem' : ⟨a, b'⟩ ∈ m.entries := by simp [hentries]
  obtain rfl := m.nodupKeys.eq_of_mk_mem hmem hmem'
  show m.entries.Perm (_ :: m.entries.kerase a)
  rw [herase, hentries]
  exact perm_middle

lemma sum_entries_insert {β : Type} (f : β → Nat) {d : β} (hf : f d = 0) (m : AList fun _ => β)
    (a : α) (b : β) :
    ((m.insert a b).entries.map fun e => f e.2).sum + f ((m.lookup a).getD d) =
      (m.entries.map fun e => f e.2).sum + f b := by
  cases hlookup : m.lookup a with
  | none =>
    have hnew : a ∉ m := AList.lookup_eq_none.mp hlookup
    rw [AList.entries_insert_of_notMem hnew, map_cons, sum_cons, Option.getD_none, hf,
      Nat.add_zero, Nat.add_comm]
  | some old =>
    have hperm := ((entries_perm_erase hlookup).map fun e => f e.2).sum_eq
    show ((List.kinsert a b m.entries).map fun e => f e.2).sum + f old = _
    rw [hperm, kinsert_def, map_cons, map_cons, sum_cons, sum_cons]
    show f b + ((m.erase a).entries.map fun e => f e.2).sum + f old = _
    dsimp only
    omega

end AList
