import Mathlib.Data.List.AList

/-!
# Caches with generations

Each owner has a generation, and each entry of a cache is stamped with the generation that its owner
had when the entry was stored. An entry counts only while the two are the same: raising the
generation of an owner makes all its entries invalid at once, without a walk through the cache.

What such a cache cannot know is from which version of its owner the data of an entry comes. This is
a second map here, next to the cache.

## Main results

* `valid?_eq_some_iff`, `valid?_bump`: which entries count.
-/

namespace StampedCache

open Option Function AList

variable {ι κ ε ν : Type} [DecidableEq ι] [DecidableEq κ]

abbrev Generations (ι : Type) : Type := AList fun _ : ι => Nat

abbrev Entries (ι κ ε : Type) : Type := AList fun _ : ι => AList fun _ : κ => ε

/-- The generation of an owner; it is `0` before the first change. -/
def generation (g : Generations ι) (i : ι) : Nat := (g.lookup i).getD 0

def bump (g : Generations ι) (i : ι) : Generations ι := g.insert i (generation g i + 1)

/-- The generation of an owner is looked up, which stores it if it is not there. -/
def touch (g : Generations ι) (i : ι) : Generations ι := g.insert i (generation g i)

def entryAt (c : Entries ι κ ε) (i : ι) (k : κ) : Option ε := (c.lookup i).bind fun m => m.lookup k

/-- The entry of a key, if its stamp is the generation of the owner. -/
def valid? (stamp : ε → Nat) (g : Generations ι) (c : Entries ι κ ε) (i : ι) (k : κ) : Option ε :=
  match c.lookup i with
  | none => none
  | some m =>
    match m.lookup k with
    | none => none
    | some e => if stamp e ≠ generation g i then none else some e

def put (c : Entries ι κ ε) (i : ι) (k : κ) (e : ε) : Entries ι κ ε :=
  c.insert i (((c.lookup i).getD ∅).insert k e)

/-! ### Lookups -/

variable {stamp : ε → Nat} {g : Generations ι} {c : Entries ι κ ε} {i j : ι} {k l : κ} {e e' : ε}

@[simp] lemma generation_bump_self : generation (bump g i) i = generation g i + 1 := by
  simp [generation, bump]

lemma generation_bump_of_ne (h : j ≠ i) : generation (bump g i) j = generation g j := by
  simp [generation, bump, lookup_insert_ne h]

@[simp] lemma generation_touch : generation (touch g i) j = generation g j := by
  by_cases h : j = i
  · subst h
    simp [generation, touch]
  · simp [generation, touch, lookup_insert_ne h]

@[simp] lemma entryAt_empty : entryAt (∅ : Entries ι κ ε) i k = none := by simp [entryAt]

@[simp] lemma entryAt_put_self : entryAt (put c i k e) i k = some e := by simp [entryAt, put]

lemma entryAt_put_of_ne (h : (j, l) ≠ (i, k)) : entryAt (put c i k e) j l = entryAt c j l := by
  by_cases hj : j = i
  · subst hj
    have hl : l ≠ k := fun hl => h (by rw [hl])
    simp only [entryAt, put, lookup_insert, bind_some, lookup_insert_ne hl]
    cases c.lookup j with
    | none => simp
    | some m => simp
  · simp [entryAt, put, lookup_insert_ne hj]

@[simp] lemma entryAt_erase_self : entryAt (c.erase i) i k = none := by simp [entryAt]

lemma entryAt_erase_of_ne (h : j ≠ i) : entryAt (c.erase i) j k = entryAt c j k := by
  simp [entryAt, lookup_erase_ne h]

lemma entryAt_of_erase (h : entryAt (c.erase i) j k = some e) : entryAt c j k = some e := by
  by_cases hj : j = i
  · subst hj
    rw [entryAt_erase_self] at h
    cases h
  · rwa [entryAt_erase_of_ne hj] at h

lemma valid?_eq_some_iff : valid? stamp g c i k = some e ↔
    entryAt c i k = some e ∧ stamp e = generation g i := by
  unfold valid? entryAt
  cases c.lookup i with
  | none => simp
  | some m =>
    cases hm : m.lookup k with
    | none => simp [hm]
    | some e' =>
      simp only [bind_some, hm, some.injEq]
      split
      · rename_i hne
        exact iff_of_false (by simp) (fun h => hne (h.1 ▸ h.2))
      · rename_i heq
        exact ⟨fun h => ⟨some.inj h, some.inj h ▸ not_not.mp heq⟩, fun h => h.1 ▸ rfl⟩

@[simp] lemma valid?_empty : valid? stamp g (∅ : Entries ι κ ε) i k = none := by
  simp [valid?]

/-! ### Stamps -/

def Behind (stamp : ε → Nat) (g : Generations ι) (c : Entries ι κ ε) : Prop :=
  ∀ i k e, entryAt c i k = some e → stamp e ≤ generation g i

lemma behind_empty : Behind stamp g (∅ : Entries ι κ ε) := by
  intro i k e h
  rw [entryAt_empty] at h
  cases h

section

variable (h : Behind stamp g c)
include h

lemma Behind.touch : Behind stamp (touch g i) c := by
  intro j l e he
  rw [generation_touch]
  exact h j l e he

lemma Behind.bump : Behind stamp (bump g i) c := by
  intro j l e he
  have hle := h j l e he
  by_cases hj : j = i
  · subst hj
    rw [generation_bump_self]
    omega
  · rwa [generation_bump_of_ne hj]

lemma Behind.put (he : stamp e ≤ generation g i) : Behind stamp g (put c i k e) := by
  intro j l e' he'
  by_cases hjl : (j, l) = (i, k)
  · cases hjl
    rw [entryAt_put_self] at he'
    exact some.inj he' ▸ he
  · rw [entryAt_put_of_ne hjl] at he'
    exact h j l e' he'

lemma Behind.erase : Behind stamp g (c.erase i) :=
  fun j l e he => h j l e (entryAt_of_erase he)

lemma valid?_bump : valid? stamp (bump g i) c i k = none := by
  cases hv : valid? stamp (StampedCache.bump g i) c i k with
  | none => rfl
  | some e =>
    obtain ⟨he, hstamp⟩ := valid?_eq_some_iff.mp hv
    have hle := h i k e he
    rw [generation_bump_self] at hstamp
    omega

/-! ### Versions -/

end

def FromVersion (stamp : ε → Nat) (g : Generations ι) (c : Entries ι κ ε) (source : ι × κ → ν) (i : ι)
    (v : ν) : Prop :=
  ∀ k e, valid? stamp g c i k = some e → source (i, k) = v

variable {source : ι × κ → ν} {v w : ν}

lemma fromVersion_of_none (h : ∀ k, valid? stamp g c i k = none) :
    FromVersion stamp g c source i v := by
  intro k e he
  rw [h k] at he
  cases he

lemma FromVersion.congr {g' : Generations ι} {c' : Entries ι κ ε}
    (h : FromVersion stamp g c source i v) (hg : generation g' i = generation g i)
    (hc : ∀ k e, entryAt c' i k = some e → entryAt c i k = some e) :
    FromVersion stamp g' c' source i v := by
  intro k e he
  obtain ⟨hentry, hstamp⟩ := valid?_eq_some_iff.mp he
  exact h k e (valid?_eq_some_iff.mpr ⟨hc k e hentry, hstamp.trans hg⟩)

lemma FromVersion.put_of_ne (h : FromVersion stamp g c source j v) (hj : j ≠ i) :
    FromVersion stamp g (put c i k e) (Function.update source (i, k) w) j v := by
  intro l e' he'
  obtain ⟨hentry, hstamp⟩ := valid?_eq_some_iff.mp he'
  have hne : (j, l) ≠ (i, k) := fun heq => hj (Prod.mk.inj heq).1
  rw [entryAt_put_of_ne hne] at hentry
  rw [update_of_ne hne]
  exact h l e' (valid?_eq_some_iff.mpr ⟨hentry, hstamp⟩)

/-- **Storing an entry** with the generation of its owner: the valid entries of the owner still come
from the version `v` if and only if the new one does. -/
lemma FromVersion.put_iff (h : FromVersion stamp g c source i v) (he : stamp e = generation g i) :
    FromVersion stamp g (put c i k e) (Function.update source (i, k) w) i v ↔ w = v := by
  constructor
  · intro hput
    have hnew := hput k e (valid?_eq_some_iff.mpr ⟨entryAt_put_self, he⟩)
    rwa [update_self] at hnew
  · rintro rfl l e' he'
    obtain ⟨hentry, hstamp⟩ := valid?_eq_some_iff.mp he'
    by_cases hl : l = k
    · subst hl
      exact update_self ..
    · have hne : (i, l) ≠ (i, k) := fun heq => hl (Prod.mk.inj heq).2
      rw [entryAt_put_of_ne hne] at hentry
      rw [update_of_ne hne]
      exact h l e' (valid?_eq_some_iff.mpr ⟨hentry, hstamp⟩)

/-- **Storing an entry**, for all owners of a kind: they still have nothing but entries of their
versions if and only if the owner of the new one is not of that kind or has the version of the new
one. -/
lemma forall_fromVersion_put_iff {g' : Generations ι} {p : ι → Prop} {version : ι → ν}
    (h : ∀ j, p j → FromVersion stamp g c source j (version j))
    (hg : ∀ j, generation g' j = generation g j) (he : stamp e = generation g i) :
    (∀ j, p j → FromVersion stamp g' (put c i k e) (Function.update source (i, k) w) j (version j)) ↔
      (p i → w = version i) := by
  have htouched : ∀ j, p j → FromVersion stamp g' c source j (version j) :=
    fun j hj => (h j hj).congr (hg j) fun _ _ he => he
  have he' : stamp e = generation g' i := he.trans (hg i).symm
  constructor
  · intro hput hi
    exact ((htouched i hi).put_iff he').mp (hput i hi)
  · intro hw j hj
    by_cases heq : j = i
    · subst heq
      exact ((htouched j hj).put_iff he').mpr (hw hj)
    · exact (htouched j hj).put_of_ne heq

end StampedCache
