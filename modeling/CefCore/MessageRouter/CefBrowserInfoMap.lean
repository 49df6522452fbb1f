import CefCore.MessageRouter.BrowserInfoMap

/-!
# The per-browser info map of the C++ message router

`CefBrowserInfoMap<IdType, ObjectType>` of `libcef_dll/wrapper/cef_browser_info_map.h`. It holds the
same table as the Rust map, but its walks erase an entry as soon as the visitor asks for it, where
the Rust walks collect the keys and erase them afterwards. A visitor does not look at the map while
it is being walked.

## Main results

* `findAll_eq`, `findAllIn_eq`, `find_eq`: the two maps do the same.

## Implementation notes

`OnNextInfo` returns whether to go on and sets `*remove`; the pair is a `ControlFlow`. The map
owns its inner maps, and the objects belong to the caller, so that the values here are pointers.
-/

namespace CefCore.MessageRouter.CefBrowserInfoMap

open Std BrowserInfoMap List

variable {K V σ : Type} {cmp : K → K → Ordering}

/-- `Add`. The `DCHECK` that the id is not in the map yet aborts when it fails. -/
def add (m : BrowserInfoMap K V cmp) (browserId : Int) (infoId : K) (info : V) :
    Option (BrowserInfoMap K V cmp) :=
  match m.get? browserId infoId with
  | some _ => none
  | none => some (m.insert browserId infoId info)

def find (m : BrowserInfoMap K V cmp) (browserId : Int) (infoId : K) (visitor : Visitor σ K V)
    (s : σ) : Option V × BrowserInfoMap K V cmp × σ :=
  if m.map.isEmpty then (none, m, s)
  else match m.map[browserId]? with
    | none => (none, m, s)
    | some infoMap =>
      match infoMap[infoId]? with
      | none => (none, m, s)
      | some info =>
        let (flow, s') := visitor browserId infoId info s
        if flow.result = .removeEntry then
          (some info, ⟨putBack m.map browserId (infoMap.erase infoId)⟩, s')
        else (some info, m, s')

/-- The inner loop of `FindAll`: the inner map, whether to keep going, and the visitor's state. -/
def visitInfos (visitor : Visitor σ K V) (browserId : Int) :
    List (K × V) → TreeMap K V cmp → σ → TreeMap K V cmp × Bool × σ
  | [], infoMap, s => (infoMap, true, s)
  | (infoId, info) :: rest, infoMap, s =>
    let (flow, s') := visitor browserId infoId info s
    let infoMap := if flow.result = .removeEntry then infoMap.erase infoId else infoMap
    if flow.stops then (infoMap, false, s') else visitInfos visitor browserId rest infoMap s'

/-- The outer loop of `FindAll`. -/
def visitBrowsers (visitor : Visitor σ K V) : List (Int × TreeMap K V cmp) →
    TreeMap Int (TreeMap K V cmp) → σ → TreeMap Int (TreeMap K V cmp) × σ
  | [], m, s => (m, s)
  | (browserId, infoMap) :: rest, m, s =>
    let (infoMap', keepgoing, s') := visitInfos visitor browserId infoMap.toList infoMap s
    let m' := putBack m browserId infoMap'
    if keepgoing then visitBrowsers visitor rest m' s' else (m', s')

/-- `FindAll(visitor)`. -/
def findAll (m : BrowserInfoMap K V cmp) (visitor : Visitor σ K V) (s : σ) :
    BrowserInfoMap K V cmp × σ :=
  if m.map.isEmpty then (m, s)
  else
    let (m', s') := visitBrowsers visitor m.map.toList m.map s
    (⟨m'⟩, s')

/-- `FindAll(browser_id, visitor)`. -/
def findAllIn (m : BrowserInfoMap K V cmp) (browserId : Int) (visitor : Visitor σ K V) (s : σ) :
    BrowserInfoMap K V cmp × σ :=
  if m.map.isEmpty then (m, s)
  else match m.map[browserId]? with
    | none => (m, s)
    | some infoMap =>
      let (infoMap', _, s') := visitInfos visitor browserId infoMap.toList infoMap s
      (⟨putBack m.map browserId infoMap'⟩, s')

def size (m : BrowserInfoMap K V cmp) : Nat :=
  if m.map.isEmpty then 0 else (m.map.toList.map (·.2.size)).sum

/-! ### Agreement with the Rust map -/

lemma visitInfos_eq (visitor : Visitor σ K V) (b : Int) :
    ∀ (l : List (K × V)) (im : TreeMap K V cmp) (s : σ), visitInfos visitor b l im s =
      ((visitEntries visitor b l s).1.foldl (·.erase ·) im, !(visitEntries visitor b l s).2.1,
        (visitEntries visitor b l s).2.2)
  | [], im, s => rfl
  | (k, v) :: l, im, s => by
    simp only [visitInfos, visitEntries]
    cases hs : (visitor b k v s).1.stops with
    | true => by_cases hr : (visitor b k v s).1.result = .removeEntry <;> simp [hr]
    | false =>
      by_cases hr : (visitor b k v s).1.result = .removeEntry <;>
        simp [hr, visitInfos_eq visitor b l]

lemma visitBrowsers_eq (visitor : Visitor σ K V) :
    ∀ (l : List (Int × TreeMap K V cmp)) (m : TreeMap Int (TreeMap K V cmp)) (s : σ),
      (∀ e ∈ l, m[e.1]? = some e.2) → (l.map Prod.fst).Nodup →
      visitBrowsers visitor l m s = findAllLoop visitor (l.map Prod.fst) m s
  | [], m, s, _, _ => rfl
  | (b, im) :: l, m, s, hm, hnd => by
    have hrest : ∀ im', ∀ e ∈ l, (putBack m b im')[e.1]? = some e.2 := by
      intro im' e he
      have hne : b ≠ e.1 := fun h =>
        (nodup_cons.mp hnd).1 (mem_map.mpr ⟨e, he, h.symm⟩)
      rw [← hm e (by simp [he])]
      unfold putBack
      split <;> simp [TreeMap.getElem?_erase, TreeMap.getElem?_insert, hne]
    simp only [visitBrowsers, map_cons, findAllLoop, hm (b, im) (by simp), visitInfos_eq]
    cases (visitEntries visitor b im.toList s).2.1 with
    | true => rfl
    | false => exact visitBrowsers_eq visitor l _ _ (hrest _) (nodup_cons.mp hnd).2

section

variable (m : BrowserInfoMap K V cmp)

theorem findAll_eq (visitor : Visitor σ K V) (s : σ) :
    findAll m visitor s = m.findAll visitor s := by
  unfold findAll BrowserInfoMap.findAll
  rw [← TreeMap.map_fst_toList_eq_keys]
  split
  · rename_i h
    rw [toList_of_isEmpty h]
    rfl
  · rw [visitBrowsers_eq visitor _ _ _
      (fun e he => TreeMap.mem_toList_iff_getElem?_eq_some.mp he) (nodup_fst_toList m.map)]

/-- **The walk over one browser's entries** is the Rust one. -/
theorem findAllIn_eq (b : Int) (visitor : Visitor σ K V) (s : σ) :
    findAllIn m b visitor s = m.findBrowserAll b visitor s := by
  unfold findAllIn findBrowserAll
  split
  · rfl
  · cases m.map[b]? with
    | none => rfl
    | some im => simp [visitInfos_eq]

theorem find_eq (b : Int) (k : K) (visitor : Visitor σ K V) (s : σ) :
    find m b k visitor s = m.find b k (some visitor) s := by
  unfold find BrowserInfoMap.find
  split
  · rename_i h
    rw [TreeMap.getElem?_of_isEmpty h]
  · rfl

lemma size_eq : size m = m.entries.length := by
  rw [length_entries]
  unfold size len
  split
  · rename_i h
    simp [toList_of_isEmpty h]
  · rfl

end

end CefCore.MessageRouter.CefBrowserInfoMap
