import CefCore.Common.StringCollections
import Mathlib.Data.Finset.Insert

/-!
# The string collections of the crate

`CefStringList`, `CefStringMap` and `CefStringMultimap` of `rust/cef-rs/cef/src/string.rs`. A
collection stands for an object of the C library: it owns it, or it has been made from a pointer to it.
The structs behind the pointers are opaque. Nevertheless a collection that is made from a constant
pointer copies the struct.

## Main results

* `intoIter_obtain_iff`: when a collection gives the items of the object.

## Implementation notes

* The memory is the object at every address, so that all pointers to objects are valid.
* An opaque struct has no bytes. A pointer to a copy of it is not a pointer to the object.
* Dropping a collection, which frees the object of an owner, is left out.
-/

namespace CefCore.Common

open CefCore.MessageRouter CefCore.MessageRouter.Rust List

/-! ### Collections and pointers -/

/-- What a pointer to an opaque struct points to: an object, or a copy of the struct. -/
inductive Pointee where
  | object (address : Nat)
  | copy

/-- `CefStringCollection<T>`, where the objects behind `T` are of type `α`. -/
inductive CefStringCollection (α : Type) where
  | borrowed (value : Option Unit)
  | borrowedMut (value : Option Nat)
  | free (value : Option Nat)

namespace CefStringCollection

variable {α β : Type}

/-- `From<*const T>`. -/
def fromConst (value : Option Pointee) : CefStringCollection α := .borrowed (value.map fun _ => ())

/-- `From<*mut T>`. -/
def fromMut (value : Option Nat) : CefStringCollection α := .borrowedMut value

/-- `From<&CefStringCollection<T>> for Option<&T>`. -/
def asRef : CefStringCollection α → Option Pointee
  | .borrowed value => value.map fun _ => .copy
  | .borrowedMut value | .free value => value.map .object

/-- `From<&mut CefStringCollection<T>> for Option<&mut T>`. -/
def asMut : CefStringCollection α → Option Nat
  | .borrowedMut value | .free value => value
  | .borrowed _ => none

def clone (x : CefStringCollection α) : CefStringCollection α :=
  let data := x.asRef
  fromConst data

/-- The ways to get a collection from another one: it is cloned, or made from the pointer that the
other one is converted to. -/
inductive Obtaining where
  | clone
  | borrow
  | borrowMut
  deriving DecidableEq

def obtain (x : CefStringCollection α) : Obtaining → CefStringCollection α
  | .clone => x.clone
  | .borrow => fromConst x.asRef
  | .borrowMut => fromMut x.asMut

/-- What `IntoIterator` of the three collections have in common: the items of the object, if the
collection can be converted to a pointer. -/
def intoIterWith (items : α → List β) (memory : Nat → α) (x : CefStringCollection α) : List β :=
  match x.asMut with
  | none => []
  | some address => items (memory address)

def HoldsNothing (size : α → Nat) (memory : Nat → α) : CefStringCollection α → Prop
  | .borrowed _ => True
  | .borrowedMut value | .free value => ∀ address ∈ value, size (memory address) = 0

variable {items : α → List β}

lemma intoIterWith_eq_nil_iff {size : α → Nat}
    (hitems : ∀ a, items a = [] ↔ size a = 0) (memory : Nat → α) (x : CefStringCollection α) :
    x.intoIterWith items memory = [] ↔ x.HoldsNothing size memory := by
  have hvalue : ∀ value, (match value with
      | none => []
      | some address => items (memory address)) = [] ↔
      ∀ address ∈ value, size (memory address) = 0 := by
    rintro (_ | address)
    · exact iff_of_true rfl nofun
    · rw [hitems]
      exact ⟨fun h a ha => Option.some.inj ha ▸ h, fun h => h address rfl⟩
  cases x with
  | borrowed value => exact iff_of_true rfl trivial
  | borrowedMut value => exact hvalue value
  | free value => exact hvalue value

lemma intoIterWith_obtain_eq_nil (memory : Nat → α)
    (x : CefStringCollection α) {way : Obtaining} (hway : way ≠ .borrowMut) :
    (x.obtain way).intoIterWith items memory = [] := by
  cases way with
  | clone => rfl
  | borrow => rfl
  | borrowMut => exact absurd rfl hway

lemma intoIterWith_foldl_obtain_eq_nil {memory : Nat → α}
    (ways : List Obtaining) {x : CefStringCollection α} (h : x.intoIterWith items memory = []) :
    (ways.foldl obtain x).intoIterWith items memory = [] := by
  induction ways generalizing x with
  | nil => exact h
  | cons way ways ih =>
    refine ih ?_
    by_cases hway : way = .borrowMut
    · subst hway
      exact h
    · exact intoIterWith_obtain_eq_nil memory x hway

/-- **A collection has the items of the one that it is obtained from** if and only if there are none,
or nothing but pointers that can be written through have been used. -/
theorem intoIterWith_obtain_iff {size : α → Nat}
    (hitems : ∀ a, items a = [] ↔ size a = 0) (memory : Nat → α) (x : CefStringCollection α)
    (ways : List Obtaining) :
    (ways.foldl obtain x).intoIterWith items memory = x.intoIterWith items memory ↔
      x.HoldsNothing size memory ∨ ∀ way ∈ ways, way = .borrowMut := by
  rw [← intoIterWith_eq_nil_iff hitems]
  constructor
  · intro hsame
    by_contra hnot
    rw [not_or] at hnot
    obtain ⟨hitem, hways⟩ := hnot
    refine hitem (hsame.symm.trans ?_)
    clear hitem hsame
    -- behind the first way of another kind there are no items
    induction ways generalizing x with
    | nil => exact absurd nofun hways
    | cons way ways ih =>
      by_cases hway : way = .borrowMut
      · subst hway
        exact ih _ fun hall => hways (forall_mem_cons.mpr ⟨rfl, hall⟩)
      · exact intoIterWith_foldl_obtain_eq_nil ways (intoIterWith_obtain_eq_nil memory x hway)
  · rintro (hnil | hways)
    · rw [hnil]
      exact intoIterWith_foldl_obtain_eq_nil ways hnil
    · induction ways generalizing x with
      | nil => rfl
      | cons way ways ih =>
        obtain ⟨rfl, hrest⟩ := forall_mem_cons.mp hways
        exact ih _ hrest

end CefStringCollection

/-! ### The three collections -/

/-- `From<&str> for CefStringUtf16`. -/
def utf16FromStr (base : UnicodeConversions) (value : String) : CefStringUtf16 :=
  let (ret, data) := cefStringUtf8ToUtf16 base value
  ⟨if ret then some data else none⟩

/-- The text of a string that a C function has written. -/
def textOf (base : UnicodeConversions) (value : CefString) : String :=
  (CefStringUtf8.fromUtf16 base ⟨some value⟩).toString

section

variable (base : UnicodeConversions)

abbrev CefStringList := CefStringCollection StringList

def listItems (list : StringList) : List String :=
  ((List.range (cefStringListSize list)).filterMap fun i => cefStringListValue list i).map
    (textOf base)

/-- `IntoIterator for CefStringList`. -/
def CefStringList.intoIter (memory : Nat → StringList) (x : CefStringList) : List String :=
  x.intoIterWith (listItems base) memory

abbrev CefStringMap := CefStringCollection StringMap

def mapItems (map : StringMap) : List (String × String) :=
  ((List.range (cefStringMapSize map)).filterMap fun i =>
    match cefStringMapKey map i, cefStringMapValue map i with
    | some key, some value => some (key, value)
    | _, _ => none).map fun e => (textOf base e.1, textOf base e.2)

/-- `IntoIterator for CefStringMap`. -/
def CefStringMap.intoIter (memory : Nat → StringMap) (x : CefStringMap) : List (String × String) :=
  x.intoIterWith (mapItems base) memory

abbrev CefStringMultimap := CefStringCollection StringMultimap

/-- One pass of the loop over the entries of a multimap, with the keys that have been visited and the
entries so far. -/
def visitKey (multimap : StringMultimap)
    (state : Finset String × List (String × List String)) (i : Nat) :
    Finset String × List (String × List String) :=
  match cefStringMultimapKey multimap i with
  | none => state
  | some key =>
    let keyString := textOf base key
    if keyString ∈ state.1 then state
    else
      let count := cefStringMultimapFindCount multimap (some key)
      let values := (List.range count).filterMap fun i =>
        (cefStringMultimapEnumerate multimap (some key) i).map (textOf base)
      (insert keyString state.1, state.2 ++ [(keyString, values)])

def multimapItems (multimap : StringMultimap) : List (String × List String) :=
  ((List.range (cefStringMultimapSize multimap)).foldl (visitKey base multimap) (∅, [])).2

/-- `IntoIterator for CefStringMultimap`. -/
def CefStringMultimap.intoIter (memory : Nat → StringMultimap) (x : CefStringMultimap) :
    List (String × List String) :=
  x.intoIterWith (multimapItems base) memory

end

variable {base : UnicodeConversions}

lemma listItems_eq_nil_iff (list : StringList) :
    listItems base list = [] ↔ cefStringListSize list = 0 := by
  rw [listItems, map_eq_nil_iff, filterMap_eq_nil_iff, cefStringListSize]
  constructor
  · intro h
    by_contra hne
    have hfirst := h 0 (mem_range.mpr (Nat.pos_of_ne_zero hne))
    rw [cefStringListValue, if_neg (by omega), getElem?_eq_none_iff] at hfirst
    omega
  · intro h i hi
    rw [h] at hi
    simp at hi

lemma mapItems_eq_nil_iff (map : StringMap) :
    mapItems base map = [] ↔ cefStringMapSize map = 0 := by
  rw [mapItems, map_eq_nil_iff, filterMap_eq_nil_iff, cefStringMapSize]
  constructor
  · intro h
    by_contra hne
    have hpos : 0 < map.mapRef.length := Nat.pos_of_ne_zero hne
    have hfirst := h 0 (mem_range.mpr hpos)
    rw [cefStringMapKey, cefStringMapValue, if_neg (by omega), if_neg (by omega),
      getElem?_eq_getElem hpos] at hfirst
    exact nomatch hfirst
  · intro h i hi
    rw [h] at hi
    simp at hi

lemma subset_visitKey (multimap : StringMultimap)
    (state : Finset String × List (String × List String)) (i : Nat) :
    state.2 <+: (visitKey base multimap state i).2 := by
  unfold visitKey
  split
  · exact prefix_refl _
  · dsimp only
    split
    · exact prefix_refl _
    · exact prefix_append _ _

lemma subset_foldl_visitKey (multimap : StringMultimap) (is : List Nat)
    (state : Finset String × List (String × List String)) :
    state.2 <+: (is.foldl (visitKey base multimap) state).2 := by
  induction is generalizing state with
  | nil => exact prefix_refl _
  | cons i is ih => exact (subset_visitKey multimap state i).trans (ih _)

lemma multimapItems_eq_nil_iff (multimap : StringMultimap) :
    multimapItems base multimap = [] ↔ cefStringMultimapSize multimap = 0 := by
  rw [multimapItems]
  constructor
  · intro h
    by_contra hne
    obtain ⟨n, hn⟩ := Nat.exists_eq_succ_of_ne_zero hne
    rw [hn, range_succ_eq_map, foldl_cons] at h
    -- the first key has not been visited
    have hkey : ∃ key, cefStringMultimapKey multimap 0 = some key := by
      have hpos : 0 < multimap.mapRef.length := Nat.pos_of_ne_zero hne
      refine ⟨multimap.mapRef[0].1, ?_⟩
      rw [cefStringMultimapKey, StringMultimap.size, if_neg (not_le.mpr hpos),
        getElem?_eq_getElem hpos]
      rfl
    obtain ⟨key, hkey⟩ := hkey
    have hprefix := @subset_foldl_visitKey base multimap (List.map Nat.succ (List.range n))
      (visitKey base multimap (∅, []) 0)
    rw [h, prefix_nil, visitKey, hkey] at hprefix
    simp at hprefix
  · intro h
    rw [h]
    rfl

open CefStringCollection in
/-- **Which collections iterate alike**: a collection that is obtained from another one has its items
if and only if there are none, or no clone and no constant pointer has been used. This is so for lists,
maps and multimaps. -/
theorem intoIter_obtain_iff (base : UnicodeConversions) (lists : Nat → StringList)
    (maps : Nat → StringMap) (multimaps : Nat → StringMultimap) (list : CefStringList)
    (map : CefStringMap) (multimap : CefStringMultimap) (ways : List Obtaining) :
    (CefStringList.intoIter base lists (ways.foldl obtain list) =
        CefStringList.intoIter base lists list ↔
      list.HoldsNothing cefStringListSize lists ∨ ∀ way ∈ ways, way = .borrowMut) ∧
    (CefStringMap.intoIter base maps (ways.foldl obtain map) = CefStringMap.intoIter base maps map ↔
      map.HoldsNothing cefStringMapSize maps ∨ ∀ way ∈ ways, way = .borrowMut) ∧
    (CefStringMultimap.intoIter base multimaps (ways.foldl obtain multimap) =
        CefStringMultimap.intoIter base multimaps multimap ↔
      multimap.HoldsNothing cefStringMultimapSize multimaps ∨ ∀ way ∈ ways, way = .borrowMut) :=
  ⟨intoIterWith_obtain_iff listItems_eq_nil_iff lists list ways,
    intoIterWith_obtain_iff mapItems_eq_nil_iff maps map ways,
    intoIterWith_obtain_iff multimapItems_eq_nil_iff multimaps multimap ways⟩

/-- The clone of a list with one item has none. -/
theorem not_intoIter_clone : ¬ ∀ (base : UnicodeConversions) (lists : Nat → StringList)
    (list : CefStringList) (way : CefStringCollection.Obtaining),
    CefStringList.intoIter base lists (list.obtain way) = CefStringList.intoIter base lists list := by
  intro h
  have hclone := h .standard (fun _ => [[97]]) (.free (some 0)) .clone
  have hnil := (@listItems_eq_nil_iff .standard [[97]]).mp hclone.symm
  exact absurd hnil (by decide)

end CefCore.Common
