import CefCore.Common.RustStringCollections
import CefCore.Foundations.Grouping
import CefCore.MessageRouter.RustMessageRoundTrip

/-!
# The groups of a string multimap

Texts are appended to a `CefStringMultimap` of the crate, each with a key. Its items are the keys with
their values. They are found by walking over the entries in the order of their insertions, and asking
for all values of every key that is new.

## Main results

* `appendAll_groups`: the items are the appended texts, grouped by key.
-/

namespace CefCore.Common

open CefCore.MessageRouter CefCore.MessageRouter.Rust List

variable (base : UnicodeConversions)

/-- `CefStringMultimap::new`, where `address` is that of the new object. -/
def CefStringMultimap.new (memory : Nat → StringMultimap) (address : Nat) :
    CefStringMultimap × (Nat → StringMultimap) :=
  (.free (some address), Function.update memory address {})

def CefStringMultimap.append (x : CefStringMultimap) (memory : Nat → StringMultimap)
    (key value : String) : Bool × (Nat → StringMultimap) :=
  match x.asMut with
  | none => (false, memory)
  | some address =>
    let key := utf16FromStr base key
    let value := utf16FromStr base value
    let (result, multimap) := cefStringMultimapAppend (memory address) key.data value.data
    (result, Function.update memory address multimap)

def CefStringMultimap.appendAll (x : CefStringMultimap) (memory : Nat → StringMultimap)
    (entries : List (String × String)) : Nat → StringMultimap :=
  entries.foldl (fun memory entry => (append base x memory entry.1 entry.2).2) memory

variable {base}

/-! ### Texts -/

def unitsOf (text : String) : CefString := Utf16.encode text.toList

lemma utf16FromStr_eq (text : String) : utf16FromStr base text = ⟨some (unitsOf text)⟩ := by
  rw [utf16FromStr, cefStringUtf8ToUtf16, base.utf8ToUtf16_eq]
  rfl

lemma textOf_unitsOf (text : String) : textOf base (unitsOf text) = text := by
  rw [textOf, toString_fromUtf16]
  have hunits : (⟨some (unitsOf text)⟩ : CefStringUtf16).toCefString = Utf16.encode text.toList := rfl
  rw [hunits, if_pos (Utf16.wellFormed_encode _), Utf16.lossy_encode, String.ofList_toList]

lemma unitsOf_inj {text other : String} : unitsOf text = unitsOf other ↔ text = other := by
  refine ⟨fun h => ?_, congrArg unitsOf⟩
  rw [← @textOf_unitsOf .standard text, h, textOf_unitsOf]

/-! ### What has been appended -/

def entryOf (entry : String × String) : StringEntry := (unitsOf entry.1, unitsOf entry.2)

def appended (entries : List (String × String)) : StringMultimap :=
  (entries.map entryOf).foldl StringMultimap.insert {}

lemma appendAll_new (memory : Nat → StringMultimap) (address : Nat)
    (entries : List (String × String)) :
    CefStringMultimap.appendAll base (CefStringMultimap.new memory address).1
      (CefStringMultimap.new memory address).2 entries address = appended entries := by
  induction entries using List.reverseRecOn with
  | nil => exact Function.update_self ..
  | append_singleton entries entry ih =>
    have hlast (x : CefStringMultimap) (memory : Nat → StringMultimap) :
        CefStringMultimap.appendAll base x memory (entries ++ [entry]) =
          (CefStringMultimap.append base x (CefStringMultimap.appendAll base x memory entries)
            entry.1 entry.2).2 := foldl_concat ..
    have hmut : (CefStringMultimap.new memory address).1.asMut = some address := rfl
    simp only [hlast, CefStringMultimap.append, hmut, utf16FromStr_eq, cefStringMultimapAppend]
    rw [Function.update_self, ih, appended, appended, map_append, foldl_append]
    rfl

section

variable (entries : List (String × String))

lemma mapRef_appended : (appended entries).mapRef = entries.map entryOf := by
  rw [appended, foldl_insert_eq]

lemma equalRange_appended (key : CefString) :
    (appended entries).equalRange key = (entries.filter (unitsOf ·.1 = key)).map entryOf := by
  rw [appended, equalRange_foldl_insert, filter_map]
  rfl

/-- **What the C functions find for a key**: as many values as have been appended with it, each at its
place. -/
lemma enumerate_appended (key : CefString) (index : Nat) :
    cefStringMultimapEnumerate (appended entries) (some key) index =
      ((entries.filter (unitsOf ·.1 = key)).map (unitsOf ·.2))[index]? := by
  rw [cefStringMultimapEnumerate_eq, equalRange_appended, map_map]
  rfl

lemma findCount_appended (key : CefString) :
    cefStringMultimapFindCount (appended entries) (some key) =
      (entries.filter (unitsOf ·.1 = key)).length := by
  rw [cefStringMultimapFindCount, StringMultimap.count, Option.getD_some, equalRange_appended,
    length_map]

/-! ### The loop over the entries -/

lemma values_appended (key : String) :
    ((List.range (cefStringMultimapFindCount (appended entries) (some (unitsOf key)))).filterMap
      fun i => (cefStringMultimapEnumerate (appended entries) (some (unitsOf key)) i).map
        (textOf base)) = Grouping.valuesOf entries key := by
  have hfilter : entries.filter (unitsOf ·.1 = unitsOf key) = entries.filter (·.1 = key) :=
    filter_congr fun e _ => decide_eq_decide.mpr unitsOf_inj
  simp only [findCount_appended, enumerate_appended, hfilter]
  rw [Grouping.valuesOf]
  generalize entries.filter (fun e => e.1 = key) = found
  have hvalue : ∀ i ∈ List.range found.length,
      ((found.map (unitsOf ·.2))[i]?).map (textOf base) = some ((found.map (·.2)).getD i "") := by
    intro i hi
    have hlt : i < found.length := mem_range.mp hi
    simp [hlt, textOf_unitsOf]
  rw [filterMap_congr hvalue, filterMap_eq_map']
  refine ext_getElem (by simp) fun i hi hi' => ?_
  have hlt : i < found.length := by simpa using hi'
  simp [hlt]

lemma visitKey_appended
    (state : Finset String × List (String × List String)) {i : Nat} (hi : i < entries.length) :
    visitKey base (appended entries) state i =
      Grouping.visit (Grouping.valuesOf entries) state entries[i].1 := by
  have hkey : cefStringMultimapKey (appended entries) i = some (unitsOf entries[i].1) := by
    rw [cefStringMultimapKey, StringMultimap.size, mapRef_appended, length_map,
      if_neg (not_le.mpr hi), getElem?_map, getElem?_eq_getElem hi]
    rfl
  rw [visitKey, hkey]
  dsimp only
  rw [textOf_unitsOf, values_appended]
  rfl

/-- **The loop over the entries** groups the texts. -/
theorem multimapItems_eq :
    multimapItems base (appended entries) =
      ((entries.map (·.1)).foldl (Grouping.visit (Grouping.valuesOf entries)) (∅, [])).2 := by
  have hsize : cefStringMultimapSize (appended entries) = entries.length := by
    rw [cefStringMultimapSize, StringMultimap.size, mapRef_appended, length_map]
  have hkeys : (List.range entries.length).map (fun i => (entries.map (·.1)).getD i "") =
      entries.map (·.1) :=
    ext_getElem (by simp) fun i hi hi' => by
      have hlt : i < entries.length := by simpa using hi'
      simp [hlt]
  rw [multimapItems, hsize]
  conv_rhs => rw [← hkeys, foldl_map]
  refine congrArg Prod.snd (foldl_ext _ _ _ fun state i hi => ?_)
  have hlt : i < entries.length := mem_range.mp hi
  rw [visitKey_appended entries state hlt]
  simp [hlt]

end

/-- **The items of a string multimap**: whatever texts are appended to a new one, each key stands once,
where it was appended first, with all its values in their order, and no value is lost. For every key the
C functions find its values at their places. -/
theorem appendAll_groups (base : UnicodeConversions) (memory : Nat → StringMultimap) (address : Nat)
    (entries : List (String × String)) :
    let x := (CefStringMultimap.new memory address).1
    let memory' := CefStringMultimap.appendAll base x (CefStringMultimap.new memory address).2 entries
    Grouping.Groups entries (CefStringMultimap.intoIter base memory' x) ∧
      ∀ key : CefString, cefStringMultimapFindCount (memory' address) (some key) =
          (entries.filter (unitsOf ·.1 = key)).length ∧
        ∀ (index : Nat) (hindex : index < (entries.filter (unitsOf ·.1 = key)).length),
          cefStringMultimapEnumerate (memory' address) (some key) index =
            some (unitsOf (entries.filter (unitsOf ·.1 = key))[index].2) := by
  intro x memory'
  have hmemory : memory' address = appended entries := appendAll_new memory address entries
  constructor
  · have hitems : CefStringMultimap.intoIter base memory' x =
        multimapItems base (memory' address) := rfl
    rw [hitems, hmemory, multimapItems_eq]
    exact Grouping.groups_foldl_visit entries
  · intro key
    rw [hmemory]
    refine ⟨findCount_appended entries key, fun index hindex => ?_⟩
    rw [enumerate_appended, getElem?_map, getElem?_eq_getElem hindex]
    rfl

end CefCore.Common
