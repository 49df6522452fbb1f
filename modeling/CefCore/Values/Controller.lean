import CefCore.Foundations.Worklist
import CefCore.Values.BaseValue

/-!
# The value controller

`CefValueController` of `libcef/common/value_base.cc`: the owner of a tree of values, the map from
the addresses of values to the wrappers that refer to them, and the map of dependencies.

## Main definitions

* `CefValueController`: the owner and the two maps.

## Implementation notes

* Wrappers are numbers. A method that notifies wrappers (`OnControlRemoved`) returns their numbers.
* The dependency map is the set of its pairs of parent and child. `Remove` deletes a set that has
  become empty and no method adds an empty one, so that this is the same.
* `DCHECK`s are not part of a release build.
-/

namespace CefCore.Values

open List Option

structure CefValueController where
  owner : Option (Addr × Nat)
  referenceMap : List (Addr × Nat)
  dependencyMap : List (Addr × Addr)

namespace CefValueController

def new : CefValueController := ⟨none, [], []⟩

section

variable (c : CefValueController)

section

variable (value : Addr)

def setOwner (object : Nat) : CefValueController :=
  { c with owner := some (value, object) }

def isOwner : Bool :=
  c.owner.any fun o => o.1 = value

def reference : Option Nat :=
  (c.referenceMap.find? fun e => e.1 = value).map (·.2)

def addReference (object : Nat) : CefValueController :=
  -- `std::map::insert` keeps an entry that is there already
  if (c.reference value).isSome then c
  else { c with referenceMap := (value, object) :: c.referenceMap }

/-- `Remove`, with the wrappers that it notifies. -/
def remove (notifyObject : Bool) : CefValueController × List Nat :=
  if c.isOwner value then (new, c.referenceMap.map (·.2))
  else
    ({ c with
        referenceMap := c.referenceMap.filter fun e => e.1 ≠ value
        dependencyMap := c.dependencyMap.filter fun e => e.2 ≠ value },
      if notifyObject then (c.referenceMap.filter fun e => e.1 = value).map (·.2) else [])

def get : Option Nat :=
  if c.isOwner value then c.owner.map (·.2) else c.reference value

end

def addDependency (parent child : Addr) : CefValueController :=
  if (parent, child) ∈ c.dependencyMap then c
  else { c with dependencyMap := (parent, child) :: c.dependencyMap }

/-- `RemoveDependencies`, with the wrappers that it notifies. -/
def removeDependencies (value : Addr) : CefValueController × List Nat :=
  let (removed, dependencies) := Worklist.drain c.dependencyMap.length
    (Worklist.successors c.dependencyMap value) (c.dependencyMap.filter fun e => e.1 ≠ value) []
  ({ c with
      referenceMap := c.referenceMap.filter fun e => e.1 ∉ removed
      dependencyMap := dependencies },
    (c.referenceMap.filter fun e => e.1 ∈ removed).map (·.2))

end

/-- `TakeFrom`: the receiver, and the other controller. -/
def takeFrom (c other : CefValueController) : CefValueController × CefValueController :=
  ({ c with
      referenceMap := other.referenceMap.foldl (fun map e =>
        if map.any fun e' => e'.1 = e.1 then map else e :: map) c.referenceMap
      dependencyMap := other.dependencyMap.foldl (fun map e =>
        if e ∈ map then map else e :: map) c.dependencyMap },
    { other with referenceMap := [] })

def swap (c : CefValueController) (oldValue newValue : Addr) : CefValueController :=
  let owner := c.owner.map fun o => if o.1 = oldValue then (newValue, o.2) else o
  let referenceMap :=
    match c.reference oldValue with
    | none => c.referenceMap
    | some object =>
      (if (c.reference newValue).isSome then c.referenceMap
        else (newValue, object) :: c.referenceMap).filter fun e => e.1 ≠ oldValue
  -- the set of the old value is inserted under the new one if there is none, and erased
  let dependencyMap :=
    if c.dependencyMap.any fun e => e.1 = newValue then
      c.dependencyMap.filter fun e => e.1 ≠ oldValue
    else c.dependencyMap.map fun e => if e.1 = oldValue then (newValue, e.2) else e
  { c with
    owner := owner
    referenceMap := referenceMap
    dependencyMap := dependencyMap.map fun e => if e.2 = oldValue then (e.1, newValue) else e }

/-! ### The methods, one by one -/

section Lemmas

variable {c other : CefValueController} {value parent child oldValue newValue : Addr}

lemma isOwner_eq_true_iff : c.isOwner value = true ↔ ∃ w, c.owner = some (value, w) := by
  unfold isOwner
  cases c.owner with
  | none => simp
  | some o =>
    obtain ⟨x, w⟩ := o
    simp

lemma isOwner_eq_false_iff : c.isOwner value = false ↔ ∀ w, c.owner ≠ some (value, w) := by
  rw [← Bool.not_eq_true, isOwner_eq_true_iff, not_exists]

lemma reference_eq_none_iff : c.reference value = none ↔ ∀ e ∈ c.referenceMap, e.1 ≠ value := by
  simp [reference]

lemma reference_eq_some {w : Nat} (h : c.reference value = some w) :
    (value, w) ∈ c.referenceMap := by
  obtain ⟨e, he, rfl⟩ := map_eq_some_iff.mp h
  have hvalue : e.1 = value := by simpa using find?_some he
  rw [← hvalue]
  exact mem_of_find?_eq_some he

lemma get_eq_none_iff : c.get value = none ↔ c.isOwner value = false ∧ c.reference value = none := by
  unfold get
  cases h : c.isOwner value with
  | false => simp
  | true =>
    obtain ⟨w, hw⟩ := isOwner_eq_true_iff.mp h
    simp [hw]

lemma get_eq_some {w : Nat} (h : c.get value = some w) :
    c.owner = some (value, w) ∨ (value, w) ∈ c.referenceMap := by
  unfold get at h
  split at h
  · rename_i howner
    obtain ⟨w', hw'⟩ := isOwner_eq_true_iff.mp howner
    rw [hw', map_some, some.injEq] at h
    rw [hw', ← h]
    exact .inl rfl
  · exact .inr (reference_eq_some h)

lemma addReference_of_none (h : c.reference value = none) (object : Nat) :
    c.addReference value object = { c with referenceMap := (value, object) :: c.referenceMap } := by
  simp [addReference, h]

@[simp] lemma addDependency_owner : (c.addDependency parent child).owner = c.owner := by
  unfold addDependency
  split <;> rfl

@[simp] lemma addDependency_referenceMap :
    (c.addDependency parent child).referenceMap = c.referenceMap := by
  unfold addDependency
  split <;> rfl

lemma mem_addDependency {e : Addr × Addr} : e ∈ (c.addDependency parent child).dependencyMap ↔
    e = (parent, child) ∨ e ∈ c.dependencyMap := by
  unfold addDependency
  split
  · rename_i h
    constructor
    · exact .inr
    · rintro (rfl | he)
      · exact h
      · exact he
  · exact mem_cons

lemma swap_eq (howner : c.isOwner oldValue = false) (hreference : c.reference oldValue = none) :
    ∃ dependencies, c.swap oldValue newValue = { c with dependencyMap := dependencies } ∧
      ∀ p x, (p, x) ∈ c.dependencyMap → p ≠ oldValue → x ≠ oldValue → (p, x) ∈ dependencies := by
  have howner' : c.owner.map (fun o => if o.1 = oldValue then (newValue, o.2) else o) = c.owner := by
    cases h : c.owner with
    | none => rfl
    | some o =>
      have hne : o.1 ≠ oldValue := fun heq => isOwner_eq_false_iff.mp howner o.2 (by rw [h, ← heq])
      simp [hne]
  unfold swap
  rw [howner', hreference]
  refine ⟨_, rfl, fun p x hx hp hne => mem_map.mpr ⟨(p, x), ?_, by simp [hne]⟩⟩
  split
  · exact mem_filter.mpr ⟨hx, by simpa using hp⟩
  · exact mem_map.mpr ⟨(p, x), hx, by simp [hp]⟩

lemma swap_eq_self (howner : c.isOwner oldValue = false) (hreference : c.reference oldValue = none)
    (hdependencies : ∀ e ∈ c.dependencyMap, e.1 ≠ oldValue ∧ e.2 ≠ oldValue) :
    c.swap oldValue newValue = c := by
  have howner' : c.owner.map (fun o => if o.1 = oldValue then (newValue, o.2) else o) = c.owner := by
    cases h : c.owner with
    | none => rfl
    | some o =>
      have hne : o.1 ≠ oldValue := fun heq => isOwner_eq_false_iff.mp howner o.2 (by rw [h, ← heq])
      simp [hne]
  have hkept : c.dependencyMap.filter (fun e => e.1 ≠ oldValue) = c.dependencyMap :=
    filter_eq_self.mpr fun e he => by simpa using (hdependencies e he).1
  have hsources : c.dependencyMap.map (fun e => if e.1 = oldValue then (newValue, e.2) else e) =
      c.dependencyMap := by
    conv_rhs => rw [← map_id c.dependencyMap]
    exact map_congr_left fun e he => by simp [(hdependencies e he).1]
  have htargets : c.dependencyMap.map (fun e => if e.2 = oldValue then (e.1, newValue) else e) =
      c.dependencyMap := by
    conv_rhs => rw [← map_id c.dependencyMap]
    exact map_congr_left fun e he => by simp [(hdependencies e he).2]
  unfold swap
  rw [howner', hreference, hkept, hsources]
  simp [htargets]

private lemma foldl_insert_nodup : ∀ (es map : List (Addr × Nat)), (map.map (·.1)).Nodup →
    ((es.foldl (fun map e => if map.any fun e' => e'.1 = e.1 then map else e :: map) map).map
      (·.1)).Nodup
  | [], map, h => h
  | e :: es, map, h => by
    rw [foldl_cons]
    refine foldl_insert_nodup es _ ?_
    split
    · exact h
    · rename_i hany
      rw [map_cons, nodup_cons]
      exact ⟨by simpa using hany, h⟩

lemma takeFrom_nodup (h : (c.referenceMap.map (·.1)).Nodup) :
    ((c.takeFrom other).1.referenceMap.map (·.1)).Nodup :=
  foldl_insert_nodup other.referenceMap c.referenceMap h

variable {e : Addr × Nat}

private lemma mem_foldl_insert : ∀ (es map : List (Addr × Nat)),
    e ∈ es.foldl (fun map e => if map.any fun e' => e'.1 = e.1 then map else e :: map) map →
      e ∈ map ∨ e ∈ es
  | [], map, h => .inl h
  | e' :: es, map, h => by
    rw [foldl_cons] at h
    rcases mem_foldl_insert es _ h with h | h
    · split at h
      · exact .inl h
      · rcases mem_cons.mp h with rfl | h
        · exact .inr mem_cons_self
        · exact .inl h
    · exact .inr (mem_cons_of_mem _ h)

lemma mem_takeFrom (h : e ∈ (c.takeFrom other).1.referenceMap) :
    e ∈ c.referenceMap ∨ e ∈ other.referenceMap :=
  mem_foldl_insert other.referenceMap c.referenceMap h

private lemma subset_foldl_insert : ∀ (es map : List (Addr × Nat)), e ∈ map →
    e ∈ es.foldl (fun map e => if map.any fun e' => e'.1 = e.1 then map else e :: map) map
  | [], map, h => h
  | e' :: es, map, h => by
    rw [foldl_cons]
    refine subset_foldl_insert es _ ?_
    split
    · exact h
    · exact mem_cons_of_mem _ h

lemma mem_takeFrom_of_mem (h : e ∈ c.referenceMap) : e ∈ (c.takeFrom other).1.referenceMap :=
  subset_foldl_insert other.referenceMap c.referenceMap h

lemma takeFrom_referenceMap_of_nil (h : other.referenceMap = []) :
    (c.takeFrom other).1.referenceMap = c.referenceMap := by
  simp [takeFrom, h]

private lemma subset_foldl_dependencies {e : Addr × Addr} : ∀ (es map : List (Addr × Addr)),
    e ∈ map → e ∈ es.foldl (fun map e => if e ∈ map then map else e :: map) map
  | [], map, h => h
  | e' :: es, map, h => by
    rw [foldl_cons]
    refine subset_foldl_dependencies es _ ?_
    split
    · exact h
    · exact mem_cons_of_mem _ h

lemma mem_takeFrom_dependencyMap {e : Addr × Addr} (h : e ∈ c.dependencyMap) :
    e ∈ (c.takeFrom other).1.dependencyMap :=
  subset_foldl_dependencies other.dependencyMap c.dependencyMap h

end Lemmas

end CefValueController

end CefCore.Values
