import CefCore.Foundations.JsonValue

/-!
# Dictionaries without empty dictionaries

The dictionaries inside a dictionary that have no entries, or only entries that are such
dictionaries themselves, carry no data. Pruning drops them and keeps all other entries as they are,
in their order; it does not look into lists.

## Main results

* `not_below_prune`: no empty dictionary is left.
-/

namespace JsonValue

open List

mutual

/-- The value without the dictionaries in it that are empty or become so. -/
def prune : JsonValue → JsonValue
  | .scalar s => .scalar s
  | .dict l => .dict (pruneEntries l)
  | .list l => .list l

def pruneEntries : List (String × JsonValue) → List (String × JsonValue)
  | [] => []
  | (key, v) :: l =>
    if v.prune = .dict [] then pruneEntries l else (key, v.prune) :: pruneEntries l

end

inductive Below (u : JsonValue) : JsonValue → Prop
  | entry {key : String} {l : List (String × JsonValue)} (h : (key, u) ∈ l) : Below u (.dict l)
  | deeper {key : String} {v : JsonValue} {l : List (String × JsonValue)} (h : (key, v) ∈ l)
      (hv : Below u v) : Below u (.dict l)

theorem dictInduction {motive : JsonValue → Prop} (scalar : ∀ s, motive (.scalar s))
    (list : ∀ l, motive (.list l)) (dict : ∀ l, (∀ e ∈ l, motive e.2) → motive (.dict l)) :
    ∀ v, motive v
  | .scalar s => scalar s
  | .list l => list l
  | .dict l => dict l fun e _ => dictInduction scalar list dict e.2
termination_by v => sizeOf v
decreasing_by
  have hmem := sizeOf_lt_of_mem ‹e ∈ l›
  obtain ⟨key, v⟩ := e
  simp only [JsonValue.dict.sizeOf_spec, Prod.mk.sizeOf_spec] at *
  omega

lemma pruneEntries_eq : ∀ l : List (String × JsonValue), pruneEntries l =
    (l.map fun e => (e.1, e.2.prune)).filter fun e => e.2 ≠ .dict []
  | [] => rfl
  | (key, v) :: l => by
    rw [pruneEntries, pruneEntries_eq l, map_cons]
    split
    · rename_i hempty
      rw [filter_cons_of_neg (by simpa using hempty)]
    · rename_i hne
      rw [filter_cons_of_pos (by simpa using hne)]

lemma mem_pruneEntries {key : String} {u : JsonValue} {l : List (String × JsonValue)} :
    (key, u) ∈ pruneEntries l ↔ u ≠ .dict [] ∧ ∃ v, (key, v) ∈ l ∧ v.prune = u := by
  rw [pruneEntries_eq, mem_filter]
  simp [and_comm]

theorem not_below_prune (v : JsonValue) : ¬ Below (.dict []) v.prune := by
  induction v using dictInduction with
  | scalar s =>
    rw [prune]
    rintro ⟨⟩
  | list l =>
    rw [prune]
    rintro ⟨⟩
  | dict l ih =>
    rw [prune]
    intro h
    cases h with
    | entry he => exact (mem_pruneEntries.mp he).1 rfl
    | deeper he hv =>
      obtain ⟨-, v, hmem, rfl⟩ := mem_pruneEntries.mp he
      exact ih _ hmem hv

end JsonValue
