import CefCore.Common.StringTypes
import CefCore.Foundations.Multimap
import CefCore.MessageRouter.RustMessages

/-!
# String lists, maps and multimaps

The collections of `libcef/common/string_list_impl.cc`, `string_map_impl.cc` and
`string_multimap_impl.cc`. A map and a multimap keep their entries sorted by key, and beside them
the entries in the order of their insertions, by which they are accessed with an index.

## Main results

* `cefStringMapFind_foldl_append`: a key has the value that was appended first.

## Implementation notes

* Entries are not changed and stay where they are, so an iterator is the entry that it stands at.
* A function that writes a string returns it, and `none` where the result is zero. Copying a string
  does not fail.
* A pointer to a string is `none` where it is null; a `CefString` made from it is empty then.
* Debug assertions are left out.
-/

namespace CefCore.Common

open CefCore.MessageRouter List Option

/-- `CefStringBase::compare`, for UTF-16. -/
def CefString.compare (s t : CefString) : Int :=
  if s.isEmpty ∧ t.isEmpty then 0
  else if s.isEmpty then -1
  else if t.isEmpty then 1
  else cefStringUtf16Cmp (s.map UInt16.toFin) (t.map UInt16.toFin)

abbrev StringEntry := CefString × CefString

/-! ### Lists -/

abbrev StringList := List CefString

def cefStringListSize (list : StringList) : Nat := list.length

def cefStringListValue (list : StringList) (index : Nat) : Option CefString :=
  if index ≥ list.length then none else list[index]?

def cefStringListAppend (list : StringList) (value : Option CefString) : StringList :=
  match value with
  | some value => list ++ [value]
  | none => list ++ [[]]

/-! ### Maps -/

structure StringMap where
  map : List StringEntry := []
  mapRef : List StringEntry := []

section

variable (m : StringMap)

def StringMap.find (key : CefString) : Option StringEntry :=
  m.map.find? fun e => CefString.compare e.1 key = 0

/-- `StringMap::insert`: an entry whose key is there already is not inserted. -/
def StringMap.insert (entry : StringEntry) : StringMap :=
  if (m.find entry.1).isSome then m
  else { map := Multimap.insert CefString.compare entry m.map, mapRef := m.mapRef ++ [entry] }

def cefStringMapSize : Nat := m.mapRef.length

def cefStringMapFind (key : Option CefString) : Option CefString :=
  (m.find (key.getD [])).map (·.2)

def cefStringMapKey (index : Nat) : Option CefString :=
  if index ≥ m.mapRef.length then none else m.mapRef[index]?.map (·.1)

def cefStringMapValue (index : Nat) : Option CefString :=
  if index ≥ m.mapRef.length then none else m.mapRef[index]?.map (·.2)

def cefStringMapAppend (key value : Option CefString) : Bool × StringMap :=
  (true, m.insert (key.getD [], value.getD []))

/-! ### Multimaps -/

end

structure StringMultimap where
  map : List StringEntry := []
  mapRef : List StringEntry := []

namespace StringMultimap

variable (m : StringMultimap)

def size : Nat := m.mapRef.length

def equalRange (key : CefString) : List StringEntry :=
  Multimap.equalRange CefString.compare key m.map

def count (key : CefString) : Nat := (m.equalRange key).length

def insert (entry : StringEntry) : StringMultimap :=
  { map := Multimap.insert CefString.compare entry m.map, mapRef := m.mapRef ++ [entry] }

end StringMultimap

section

variable (m : StringMultimap)

def cefStringMultimapSize : Nat := m.size

def cefStringMultimapFindCount (key : Option CefString) : Nat :=
  m.count (key.getD [])

/-- `cef_string_multimap_enumerate`. The first iterator of the range goes forward by the index. -/
def cefStringMultimapEnumerate (key : Option CefString) (valueIndex : Nat) : Option CefString :=
  let keyStr := key.getD []
  if valueIndex ≥ m.count keyStr then none
  else
    match (m.equalRange keyStr).drop valueIndex with
    | [] => none
    | entry :: _ => some entry.2

def cefStringMultimapKey (index : Nat) : Option CefString :=
  if index ≥ m.size then none else m.mapRef[index]?.map (·.1)

def cefStringMultimapAppend (key value : Option CefString) : Bool × StringMultimap :=
  (true, m.insert (key.getD [], value.getD []))

/-! ### Keys -/

end

lemma compare_eq (s t : CefString) :
    CefString.compare s t = cefStringUtf16Cmp (s.map UInt16.toFin) (t.map UInt16.toFin) := by
  unfold CefString.compare
  cases s with
  | nil =>
    cases t with
    | nil => rfl
    | cons b t => simp [cefStringUtf16Cmp, cefStringCmp, charTraitsCompare, compareUnits]
  | cons a s =>
    cases t with
    | nil => simp [cefStringUtf16Cmp, cefStringCmp, charTraitsCompare, compareUnits]
    | cons b t => rfl

theorem compare_comparesBy : ThreeWay.ComparesBy CefString.compare fun s =>
    key (fun _ => false) (s.map UInt16.toFin) where
  neg_iff s t := by
    rw [compare_eq]
    exact cefStringCmp_comparesBy.neg_iff _ _
  pos_iff s t := by
    rw [compare_eq]
    exact cefStringCmp_comparesBy.pos_iff _ _

lemma compare_eq_zero_iff (s t : CefString) : CefString.compare s t = 0 ↔ s = t := by
  rw [compare_comparesBy.eq_zero_iff, key_eq_key_iff, cut_of_never, cut_of_never]
  constructor
  · rintro ⟨hunits, -⟩
    exact map_injective_iff.mpr (fun a b => UInt16.toFin_inj.mp) hunits
  · rintro rfl
    exact ⟨rfl, rfl⟩

lemma cefStringMultimapEnumerate_eq (m : StringMultimap) (key : CefString) (index : Nat) :
    cefStringMultimapEnumerate m (some key) index = ((m.equalRange key).map (·.2))[index]? := by
  rw [cefStringMultimapEnumerate, StringMultimap.count]
  dsimp only [getD_some]
  split
  · rename_i hge
    rw [getElem?_eq_none_iff.mpr (by rwa [length_map])]
  · rename_i hlt
    rw [not_le] at hlt
    rw [drop_eq_getElem_cons hlt, getElem?_eq_getElem (by rwa [length_map]),
      getElem_map]

lemma foldl_insert_eq (entries : List StringEntry) :
    entries.foldl StringMultimap.insert {} =
      { map := Multimap.ofEntries CefString.compare entries, mapRef := entries } := by
  have hgen : ∀ (new : List StringEntry) (m : StringMultimap), new.foldl StringMultimap.insert m =
      { map := new.foldl (fun l entry => Multimap.insert CefString.compare entry l) m.map
        mapRef := m.mapRef ++ new } := by
    intro new
    induction new with
    | nil =>
      intro m
      rw [append_nil]
      rfl
    | cons entry new ih =>
      intro m
      rw [foldl_cons, ih, StringMultimap.insert, append_assoc]
      rfl
  exact hgen entries {}

theorem equalRange_foldl_insert (entries : List StringEntry) (key : CefString) :
    (entries.foldl StringMultimap.insert {}).equalRange key = entries.filter (·.1 = key) := by
  rw [foldl_insert_eq, StringMultimap.equalRange, Multimap.equalRange_ofEntries compare_comparesBy]
  exact filter_congr fun e _ => decide_eq_decide.mpr (compare_eq_zero_iff e.1 key)

/-! ### What a map finds -/

lemma StringMap.find_eq_head? (m : StringMap) (key : CefString) :
    m.find key = (Multimap.withKey CefString.compare key m.map).head? :=
  head?_filter.symm

lemma StringMap.find_insert {m : StringMap} (hs : Multimap.Sorted CefString.compare m.map)
    (entry : StringEntry) (key : CefString) :
    (m.insert entry).find key = (m.find key).or (if entry.1 = key then some entry else none) := by
  rw [StringMap.insert]
  split
  · rename_i hsome
    by_cases hkey : entry.1 = key
    · subst hkey
      obtain ⟨e, he⟩ := isSome_iff_exists.mp hsome
      rw [he, some_or]
    · rw [if_neg hkey, or_none]
  · rw [find_eq_head?, find_eq_head?, Multimap.withKey_insert compare_comparesBy hs, head?_append]
    refine congrArg _ ?_
    by_cases hkey : entry.1 = key
    · simp [hkey, compare_eq_zero_iff]
    · simp [hkey, compare_eq_zero_iff]

lemma StringMap.insert_sorted {m : StringMap} (hs : Multimap.Sorted CefString.compare m.map)
    (entry : StringEntry) : Multimap.Sorted CefString.compare (m.insert entry).map := by
  rw [StringMap.insert]
  split
  · exact hs
  · exact hs.insert compare_comparesBy entry

/-- **A map** finds the value with which a key has been appended first. -/
theorem cefStringMapFind_foldl_append (entries : List StringEntry) (key : CefString) :
    cefStringMapFind
        (entries.foldl (fun m e => (cefStringMapAppend m (some e.1) (some e.2)).2) {}) (some key) =
      (entries.find? (·.1 = key)).map (·.2) := by
  have hgen : ∀ (entries : List StringEntry) (m : StringMap),
      Multimap.Sorted CefString.compare m.map →
        (entries.foldl StringMap.insert m).find key = (m.find key).or (entries.find? (·.1 = key)) := by
    intro entries
    induction entries with
    | nil => exact fun m _ => (or_none).symm
    | cons entry entries ih =>
      intro m hs
      rw [foldl_cons, ih _ (StringMap.insert_sorted hs entry), StringMap.find_insert hs,
        Option.or_assoc, List.find?_cons]
      by_cases hkey : entry.1 = key
      · simp [hkey]
      · simp [hkey]
  exact congrArg (Option.map (·.2)) (hgen entries {} List.Pairwise.nil)

end CefCore.Common
