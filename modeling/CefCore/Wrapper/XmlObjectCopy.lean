import CefCore.Wrapper.XmlObjectTree
import Mathlib.Data.List.Forall2

/-!
# Copies of XML objects

`Duplicate`, `Set` and `Append` are to copy a tree of objects. `Duplicate` holds the lock of the
object while it calls `Append` for the new one, which asks the object for its children and waits for
the lock.

## Main results

* `copies_iff`: only what needs no duplicates is copied.
-/

namespace CefCore.Wrapper

/-- In the heap `h'`, an object is a copy of one in the heap `h`: it is new, has the same name and the
same attributes, and copies of the children in the same order. -/
inductive CopyOf (h h' : Heap) : Nat → Nat → Prop
  | node {object copy : Nat} (hnew : h.next ≤ copy)
    (hname : (h'.object copy).name = (h.object object).name)
    (hattributes : ∀ name, (h'.object copy).attributes.lookup name =
      (h.object object).attributes.lookup name)
    (hchildren : List.Forall₂ (CopyOf h h') (h.object object).children (h'.object copy).children) :
    CopyOf h h' object copy

/-- `Duplicate` comes back with a copy. -/
def Duplicates (h : Heap) (this : Nat) : Prop :=
  ∃ fuel copy h', duplicate fuel [] h this = .ok (copy, h') ∧ CopyOf h h' this copy

/-- `Set` comes back, and the object has the name and the attributes of the other one and copies of
its children. -/
def Sets (h : Heap) (this object : Nat) : Prop :=
  ∃ fuel h', set fuel [] h this object = .ok h' ∧
    (h'.object this).name = (h.object object).name ∧
    (∀ name, (h'.object this).attributes.lookup name = (h.object object).attributes.lookup name) ∧
    List.Forall₂ (CopyOf h h') (h.object object).children (h'.object this).children

/-- `Append` comes back, the object has the attributes of both, and copies of the children of the
other one behind its own. -/
def Appends (h : Heap) (this object : Nat) (overwriteAttributes : Bool) : Prop :=
  ∃ fuel h', append fuel [] h this object overwriteAttributes = .ok h' ∧
    (h'.object this).name = (h.object this).name ∧
    (∀ name, (h'.object this).attributes.lookup name =
      if overwriteAttributes then
        ((h.object object).attributes.lookup name).or ((h.object this).attributes.lookup name)
      else ((h.object this).attributes.lookup name).or
        ((h.object object).attributes.lookup name)) ∧
    ∃ copies, List.Forall₂ (CopyOf h h') (h.object object).children copies ∧
      (h'.object this).children = (h.object this).children ++ copies

variable {h : Heap}

lemma appends_iff (this object : Nat) (overwriteAttributes : Bool) :
    Appends h this object overwriteAttributes ↔ (h.object object).children = [] := by
  constructor
  · rintro ⟨fuel, h', happend, -⟩
    by_contra hne
    exact append_ne_ok fuel hne this overwriteAttributes h' happend
  · intro hnil
    refine ⟨1, _, append_of_nil 0 hnil this overwriteAttributes, ?_, fun name => ?_, [], ?_, ?_⟩
    · rw [Heap.object_modify_self]
    · rw [Heap.object_modify_self]
      exact lookup_append h this object overwriteAttributes name
    · rw [hnil]
      exact .nil
    · rw [Heap.object_modify_self, List.append_nil]

lemma object_cleared_of_ne (hself : ∀ i, i ∉ (h.object i).children) {this object : Nat}
    (hne : object ≠ this) : ((cleared h this).object object).name = (h.object object).name ∧
      ((cleared h this).object object).attributes = (h.object object).attributes ∧
      ((cleared h this).object object).children = (h.object object).children := by
  rw [object_cleared h this (hself this), if_neg hne]
  split <;> exact ⟨rfl, rfl, rfl⟩

/-- **`Set`** copies another object without children, and itself if there is nothing to copy. -/
lemma sets_iff (hs : TreeShaped h) (this object : Nat) : Sets h this object ↔
    (h.object object).children = [] ∧
      (object = this → ∀ name, (h.object object).attributes.lookup name = none) := by
  have hself := hs.not_mem_self
  obtain ⟨hname, hchildren, hattributes⟩ := @object_setHeap_self h object this (hself this)
  by_cases hthis : object = this
  · -- the attributes and the children are gone before they are copied
    subst hthis
    have hcleared := object_cleared h object (hself object) object
    rw [if_pos rfl] at hcleared
    rw [hcleared] at hname hattributes
    have hset : ∀ fuel, set (fuel + 1) [] h object object = .ok (setHeap h object object) :=
      fun fuel => set_of_nil fuel (hself object) (by rw [hcleared])
    constructor
    · rintro ⟨fuel, h', hok, -, hsame, hcopies⟩
      cases fuel with
      | zero =>
        rw [set_eq_append _ _ _ _ (hself object), append] at hok
        cases hok
      | succ fuel =>
        rw [hset] at hok
        cases hok
        rw [hchildren] at hcopies
        refine ⟨List.forall₂_nil_right_iff.mp hcopies, fun _ name => ?_⟩
        rw [← hsame, hattributes, AttributeMap.lookup_empty]
    · rintro ⟨hnil, hnone⟩
      refine ⟨1, _, hset 0, hname, fun name => ?_, ?_⟩
      · rw [hattributes, AttributeMap.lookup_empty, hnone rfl]
      · rw [hnil, hchildren]
        exact .nil
  · obtain ⟨hname', hattributes', hchildren'⟩ := object_cleared_of_ne hself hthis
    constructor
    · rintro ⟨fuel, h', hok, -⟩
      refine ⟨?_, fun heq => absurd heq hthis⟩
      by_contra hne
      exact set_ne_ok fuel (hself this) (by rwa [hchildren']) h' hok
    · rintro ⟨hnil, -⟩
      refine ⟨1, _, set_of_nil 0 (hself this) (by rwa [hchildren']), ?_, fun name => ?_, ?_⟩
      · rw [hname, hname']
      · rw [hattributes, hattributes']
      · rw [hnil, hchildren]
        exact .nil

/-- **The three methods.** `Duplicate` waits for the lock that it holds, for every object. `Set` comes
back and has copied if and only if there is no child to duplicate and, in case an object is set to
itself, no attribute. `Append` does so if and only if there is no child to duplicate. -/
theorem copies_iff (hs : TreeShaped h) :
    (∀ this, (∀ fuel, duplicate (fuel + 2) [] h this = .error .deadlock) ∧ ¬ Duplicates h this) ∧
      (∀ this object, Sets h this object ↔ (h.object object).children = [] ∧
        (object = this → ∀ name, (h.object object).attributes.lookup name = none)) ∧
      ∀ this object overwriteAttributes, Appends h this object overwriteAttributes ↔
        (h.object object).children = [] := by
  refine ⟨fun this => ⟨fun fuel => duplicate_eq fuel [] h this, ?_⟩, sets_iff hs, appends_iff⟩
  rintro ⟨fuel, copy, h', hok, -⟩
  exact duplicate_ne_ok fuel [] h this (copy, h') hok

/-- A new object is not duplicated. -/
theorem not_duplicates_start :
    TreeShaped (start (fun _ => "a") 1) ∧ ¬ Duplicates (start (fun _ => "a") 1) 0 := by
  refine ⟨(consistent_start _ _).toTreeShaped, ?_⟩
  rintro ⟨fuel, copy, h', hok, -⟩
  exact duplicate_ne_ok fuel [] _ 0 (copy, h') hok

/-- An object with an attribute and two children, one of which has an attribute, and another object with
an attribute. -/
def family : Heap where
  object i :=
    if i = 0 then { name := "a", attributes := AttributeMap.empty.put "x" "1", children := [1, 2] }
    else if i = 1 then { name := "b", parent := some 0, attributes := AttributeMap.empty.put "y" "2" }
    else if i = 2 then { name := "c", parent := some 0, value := "v" }
    else { name := "d", attributes := AttributeMap.empty.put "z" "3" }
  next := 4

lemma parent_family (c p : Nat) : (family.object c).parent = some p ↔ p = 0 ∧ (c = 1 ∨ c = 2) := by
  simp only [family]
  split_ifs with h₀ h₁ h₂ <;> simp_all [eq_comm]

lemma treeShaped_family : TreeShaped family where
  parent_iff p c := by
    rw [parent_family]
    simp only [family]
    split_ifs with h₀ h₁ h₂ <;> simp [h₀]
  nodup p := by
    simp only [family]
    split_ifs <;> decide
  acyclic i hi := by
    -- the parent of a child has no parent
    obtain ⟨p, hp, hrest⟩ := Relation.TransGen.head'_iff.mp hi
    obtain ⟨rfl, hi⟩ := (parent_family i p).mp hp
    rcases hrest.cases_head with rfl | ⟨q, hq, -⟩
    · omega
    · have hzero := ((parent_family 0 q).mp hq).2
      omega

/-- An object without children is copied over one with children and appended to it, and not the other
way around. -/
theorem copies_iff_family : Sets family 0 3 ∧ ¬ Sets family 3 0 ∧ ¬ Sets family 1 1 ∧
    Appends family 0 3 false ∧ ¬ Appends family 3 0 false ∧ ¬ Duplicates family 1 := by
  obtain ⟨hduplicates, hsets, happends⟩ := copies_iff treeShaped_family
  refine ⟨(hsets 0 3).mpr ⟨rfl, fun h => absurd h (by decide)⟩, fun h => ?_, fun h => ?_,
    (happends 0 3 false).mpr rfl,
    fun h => ?_, (hduplicates 1).2⟩
  · exact absurd ((hsets 3 0).mp h).1 (by decide)
  · exact absurd (((hsets 1 1).mp h).2 rfl "y") (by decide)
  · exact absurd ((happends 3 0 false).mp h) (by decide)

end CefCore.Wrapper
