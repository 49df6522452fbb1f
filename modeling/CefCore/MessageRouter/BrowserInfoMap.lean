import Mathlib.Algebra.GroupWithZero.Nat
import Mathlib.Data.List.Nodup
import Mathlib.Order.Basic

/-!
# The per-browser info map of the message routers

`BrowserInfoMap<K, V>` of `rust/cef-rs/cef/src/wrapper/browser_info_map.rs`: a `BTreeMap` from
browser ids to `BTreeMap`s from keys to values, in which no inner map is kept empty, and its
visitors. A visitor sees the entries in key order and says of each whether it is removed and
whether the walk goes on; it may act on a state `σ` of its own.

## Main results

* `findAll_rule`, `findBrowserAll_rule`: the rules for walks.

## Implementation notes

The walks take the keys of a map first and remove the rejected ones at the end, so that a
visitor never sees the map half edited. The rules nevertheless speak of the lookup from which
the entries rejected so far are already gone: this is the table that the visitor's own state has
to agree with.
-/

namespace CefCore.MessageRouter

open Std List Option TreeMap

/-- What a visitor wants done with an entry, `BrowserInfoMapVisitorResult`. -/
inductive VisitorResult where
  | removeEntry
  | keepEntry
  deriving DecidableEq

/-- `ControlFlow<BrowserInfoMapVisitorResult, BrowserInfoMapVisitorResult>`. -/
inductive ControlFlow where
  | cont (result : VisitorResult)
  | brk (result : VisitorResult)

/-- The wish about the entry, whether the walk goes on or not. -/
def ControlFlow.result : ControlFlow → VisitorResult
  | .cont r => r
  | .brk r => r

def ControlFlow.stops : ControlFlow → Bool
  | .cont _ => false
  | .brk _ => true

/-- `on_next_info` of a visitor with state `σ`, called with browser id, key and value. -/
abbrev Visitor (σ K V : Type) : Type := Int → K → V → σ → ControlFlow × σ

/-! ### Lookup functions -/

def Lookup.remove {K V : Type} [DecidableEq K] (g : Int → K → Option V) (b : Int) (k : K) :
    Int → K → Option V :=
  fun b' k' => if b' = b ∧ k' = k then none else g b' k'

section Lookup

variable {K V : Type} [DecidableEq K] {g : Int → K → Option V} {b b' : Int} {k k' : K} {v : V}

lemma Lookup.remove_eq_some : Lookup.remove g b k b' k' = some v ↔
    ¬ (b' = b ∧ k' = k) ∧ g b' k' = some v := by
  unfold remove
  split <;> simp_all

lemma Lookup.foldl_remove (ks : List K) : ∀ (g : Int → K → Option V),
    ks.foldl (fun g k => Lookup.remove g b k) g b' k' =
      if b' = b ∧ k' ∈ ks then none else g b' k' := by
  induction ks with
  | nil => simp
  | cons k ks ih =>
    intro g
    rw [foldl_cons, ih]
    by_cases hb : b' = b
    · by_cases hk : k' ∈ ks
      · simp [hb, hk]
      · by_cases hkk : k' = k <;> simp [Lookup.remove, hb, hk, hkk]
    · simp [Lookup.remove, hb]

end Lookup

/-! ### The map -/

/-- `BrowserInfoMap<K, V>`: one ordered map per browser id. -/
structure BrowserInfoMap (K V : Type) (cmp : K → K → Ordering) where
  map : TreeMap Int (TreeMap K V cmp)

namespace BrowserInfoMap

variable {K V σ : Type} {cmp : K → K → Ordering}

instance : EmptyCollection (BrowserInfoMap K V cmp) := ⟨⟨∅⟩⟩

def get? (m : BrowserInfoMap K V cmp) (browserId : Int) (key : K) : Option V :=
  m.map[browserId]?.bind (·[key]?)

/-- Put an edited inner map back, or drop it when nothing is left in it. -/
def putBack (m : TreeMap Int (TreeMap K V cmp)) (browserId : Int) (infoMap : TreeMap K V cmp) :
    TreeMap Int (TreeMap K V cmp) :=
  if infoMap.isEmpty then m.erase browserId else m.insert browserId infoMap

/-- Add an object associated with the specified ids. -/
def insert (m : BrowserInfoMap K V cmp) (browserId : Int) (key : K) (value : V) :
    BrowserInfoMap K V cmp :=
  ⟨m.map.insert browserId ((m.map[browserId]?.getD ∅).insert key value)⟩

/-- Find the object with the specified ids; the visitor may remove it at the same time. -/
def find (m : BrowserInfoMap K V cmp) (browserId : Int) (key : K)
    (visitor : Option (Visitor σ K V)) (s : σ) : Option V × BrowserInfoMap K V cmp × σ :=
  match m.map[browserId]? with
  | none => (none, m, s)
  | some infoMap =>
    match infoMap[key]? with
    | none => (none, m, s)
    | some entry =>
      match visitor with
      | none => (some entry, m, s)
      | some visit =>
        let (flow, s') := visit browserId key entry s
        if flow.result = .removeEntry then
          (some entry, ⟨putBack m.map browserId (infoMap.erase key)⟩, s')
        else (some entry, m, s')

/-- The inner loop of the walks: the keys to remove, whether the visitor stopped the walk, and
its state. -/
def visitEntries (visit : Visitor σ K V) (browserId : Int) :
    List (K × V) → σ → List K × Bool × σ
  | [], s => ([], false, s)
  | (key, value) :: rest, s =>
    let (flow, s') := visit browserId key value s
    let removed := if flow.result = .removeEntry then [key] else []
    if flow.stops then (removed, true, s')
    else
      let (removed', stop, s'') := visitEntries visit browserId rest s'
      (removed ++ removed', stop, s'')

/-- The outer loop of `find_all` over the browser ids that were present at its start. -/
def findAllLoop (visit : Visitor σ K V) :
    List Int → TreeMap Int (TreeMap K V cmp) → σ → TreeMap Int (TreeMap K V cmp) × σ
  | [], m, s => (m, s)
  | browserId :: rest, m, s =>
    match m[browserId]? with
    -- `expect("missing browser info map")`: the id was a key when the loop started
    | none => (m, s)
    | some infoMap =>
      let (removed, stop, s') := visitEntries visit browserId infoMap.toList s
      let m' := putBack m browserId (removed.foldl (·.erase ·) infoMap)
      if stop then (m', s') else findAllLoop visit rest m' s'

section

variable (m : BrowserInfoMap K V cmp)

def findAll (visit : Visitor σ K V) (s : σ) : BrowserInfoMap K V cmp × σ :=
  let (m', s') := findAllLoop visit m.map.keys m.map s
  (⟨m'⟩, s')

def findBrowserAll (browserId : Int) (visit : Visitor σ K V) (s : σ) : BrowserInfoMap K V cmp × σ :=
  if m.map.isEmpty then (m, s)
  else match m.map[browserId]? with
    | none => (m, s)
    | some infoMap =>
      let (removed, _, s') := visitEntries visit browserId infoMap.toList s
      (⟨putBack m.map browserId (removed.foldl (·.erase ·) infoMap)⟩, s')

def isEmpty : Bool := m.map.isEmpty

def len : Nat := (m.map.toList.map (·.2.size)).sum

/-- The number of objects associated with the specified browser. -/
def browserLen (browserId : Int) : Nat :=
  (m.map[browserId]?.map (·.size)).getD 0

def entries : List (Int × K × V) :=
  m.map.toList.flatMap fun e => e.2.toList.map fun i => (e.1, i.1, i.2)

def browserEntries (browserId : Int) : List (K × V) :=
  (m.map[browserId]?.map (·.toList)).getD []

/-! ### Lookups after an operation -/

end

@[simp] lemma get?_empty (b : Int) (k : K) : (∅ : BrowserInfoMap K V cmp).get? b k = none := by
  show (∅ : TreeMap Int (TreeMap K V cmp))[b]?.bind (·[k]?) = none
  simp

variable {b : Int} {k : K} {m : BrowserInfoMap K V cmp} {v : V} {visit : Visitor σ K V}

lemma get?_of_map {im : TreeMap K V cmp}
    (h : m.map[b]? = some im) (k : K) : m.get? b k = im[k]? := by
  simp [get?, h]

lemma get?_of_map_none (h : m.map[b]? = none) (k : K) : m.get? b k = none := by
  simp [get?, h]

lemma find_fst (m : BrowserInfoMap K V cmp) (b : Int) (k : K) (visit : Option (Visitor σ K V))
    (s : σ) : (m.find b k visit s).1 = m.get? b k := by
  cases hb : m.map[b]? with
  | none => simp [find, hb, get?_of_map_none hb]
  | some im =>
    rw [get?_of_map hb]
    cases hk : im[k]? with
    | none => simp [find, hb, hk]
    | some v =>
      cases visit with
      | none => simp [find, hb, hk]
      | some visit =>
        simp only [find, hb, hk]
        split <;> rfl

lemma find_snd (h : m.get? b k = some v)
    (visit : Visitor σ K V) (s : σ) : (m.find b k (some visit) s).2.2 = (visit b k v s).2 := by
  cases hb : m.map[b]? with
  | none =>
    rw [get?_of_map_none hb] at h
    simp at h
  | some im =>
    rw [get?_of_map hb] at h
    simp only [find, hb, h]
    split <;> rfl

lemma length_entries (m : BrowserInfoMap K V cmp) : m.entries.length = m.len := by
  simp [entries, len, length_flatMap]

lemma length_browserEntries (m : BrowserInfoMap K V cmp) (b : Int) :
    (m.browserEntries b).length = m.browserLen b := by
  cases h : m.map[b]? <;> simp [browserEntries, browserLen, h]

lemma toList_of_isEmpty (h : m.map.isEmpty) : m.map.toList = [] := by
  rw [← List.isEmpty_iff, isEmpty_toList]
  exact h

lemma entries_of_isEmpty (h : m.isEmpty) : m.entries = [] := by
  simp [entries, toList_of_isEmpty h]

lemma browserEntries_of_isEmpty (h : m.isEmpty) (b : Int) : m.browserEntries b = [] := by
  simp [browserEntries, TreeMap.getElem?_of_isEmpty h]

lemma visitEntries_watch (hkeep : ∀ b k v s, (visit b k v s).1 = .cont .keepEntry) (b : Int) :
    ∀ (l : List (K × V)) (s : σ), visitEntries visit b l s =
      ([], false, l.foldl (fun s e => (visit b e.1 e.2 s).2) s)
  | [], s => rfl
  | (k, v) :: l, s => by
    simp [visitEntries, hkeep, ControlFlow.result, ControlFlow.stops, visitEntries_watch hkeep b l]

lemma findBrowserAll_watch
    (hkeep : ∀ b k v s, (visit b k v s).1 = .cont .keepEntry) (m : BrowserInfoMap K V cmp)
    (b : Int) (s : σ) : (m.findBrowserAll b visit s).2 =
      (m.browserEntries b).foldl (fun s e => (visit b e.1 e.2 s).2) s := by
  unfold findBrowserAll browserEntries
  split
  · rename_i h
    simp [TreeMap.getElem?_of_isEmpty h]
  · cases h : m.map[b]? with
    | none => rfl
    | some im => simp [visitEntries_watch hkeep]

lemma findAllLoop_watch (hkeep : ∀ b k v s, (visit b k v s).1 = .cont .keepEntry) :
    ∀ (l : List (Int × TreeMap K V cmp)) (m : TreeMap Int (TreeMap K V cmp)) (s : σ),
      (∀ e ∈ l, m[e.1]? = some e.2) → (l.map Prod.fst).Nodup →
      (findAllLoop visit (l.map Prod.fst) m s).2 =
        (l.flatMap fun e => e.2.toList.map fun i => (e.1, i.1, i.2)).foldl
          (fun s e => (visit e.1 e.2.1 e.2.2 s).2) s
  | [], m, s, _, _ => rfl
  | (b, im) :: l, m, s, hm, hnd => by
    have hrest : ∀ e ∈ l, (putBack m b im)[e.1]? = some e.2 := by
      intro e he
      have hne : b ≠ e.1 := fun h =>
        (nodup_cons.mp hnd).1 (mem_map.mpr ⟨e, he, h.symm⟩)
      rw [← hm e (by simp [he])]
      unfold putBack
      split <;> simp [TreeMap.getElem?_erase, TreeMap.getElem?_insert, hne]
    simp only [map_cons, findAllLoop, hm (b, im) (by simp), visitEntries_watch hkeep,
      foldl_nil, flatMap_cons, foldl_append, foldl_map, Bool.false_eq_true,
      if_false]
    exact findAllLoop_watch hkeep l _ _ hrest (nodup_cons.mp hnd).2

variable [TransCmp cmp]

lemma get?_putBack (m : TreeMap Int (TreeMap K V cmp)) (b b' : Int) (im : TreeMap K V cmp)
    (k : K) : get? ⟨putBack m b im⟩ b' k = if b' = b then im[k]? else get? ⟨m⟩ b' k := by
  unfold putBack get?
  by_cases hb : b' = b
  · subst hb
    split
    · rename_i he
      simp [TreeMap.getElem?_of_isEmpty he]
    · simp
  · have hb' : b ≠ b' := fun h => hb h.symm
    rw [if_neg hb]
    split <;> simp [TreeMap.getElem?_erase, TreeMap.getElem?_insert, hb']

lemma nodup_fst_toList (im : TreeMap K V cmp) : (im.toList.map Prod.fst).Nodup := by
  have h := im.distinct_keys_toList
  rw [List.Nodup, pairwise_map]
  exact h.imp fun hne heq => hne (by rw [heq]; exact ReflCmp.compare_self)

omit [TransCmp cmp] in
lemma findAll_watch
    (hkeep : ∀ b k v s, (visit b k v s).1 = .cont .keepEntry) (m : BrowserInfoMap K V cmp)
    (s : σ) : (m.findAll visit s).2 =
      m.entries.foldl (fun s e => (visit e.1 e.2.1 e.2.2 s).2) s := by
  unfold findAll entries
  rw [← map_fst_toList_eq_keys]
  exact findAllLoop_watch hkeep _ _ _
    (fun e he => mem_toList_iff_getElem?_eq_some.mp he) (nodup_fst_toList m.map)

lemma nodup_entries (m : BrowserInfoMap K V cmp) : m.entries.Nodup := by
  have hinner : ∀ (b : Int) (im : TreeMap K V cmp),
      (im.toList.map fun i => (b, i.1, i.2)).Nodup := by
    intro b im
    refine List.Nodup.of_map (fun e : Int × K × V => e.2.1) ?_
    rw [List.map_map]
    exact nodup_fst_toList im
  refine nodup_flatMap.mpr ⟨fun e _ => hinner e.1 e.2, ?_⟩
  have hkeys := nodup_fst_toList m.map
  rw [List.Nodup, pairwise_map] at hkeys
  refine hkeys.imp fun {e e'} hne => ?_
  intro x hx hx'
  obtain ⟨_, _, rfl⟩ := mem_map.mp hx
  obtain ⟨_, _, heq⟩ := mem_map.mp hx'
  exact hne (congrArg Prod.fst heq).symm

variable [LawfulEqCmp cmp]

lemma mem_entries : (b, k, v) ∈ m.entries ↔ m.get? b k = some v := by
  simp only [entries, mem_flatMap, List.mem_map, Prod.mk.injEq, Prod.exists, get?,
    bind_eq_some_iff]
  constructor
  · rintro ⟨b', im, him, k', v', hkv, rfl, rfl, rfl⟩
    exact ⟨im, mem_toList_iff_getElem?_eq_some.mp him, mem_toList_iff_getElem?_eq_some.mp hkv⟩
  · rintro ⟨im, him, hkv⟩
    exact ⟨b, im, mem_toList_iff_getElem?_eq_some.mpr him, k, v,
      mem_toList_iff_getElem?_eq_some.mpr hkv, rfl, rfl, rfl⟩

lemma mem_browserEntries : (k, v) ∈ m.browserEntries b ↔ m.get? b k = some v := by
  cases h : m.map[b]? <;> simp [browserEntries, get?, h]

lemma getElem?_foldl_erase (ks : List K) [DecidableEq K] : ∀ (im : TreeMap K V cmp) (k : K),
    (ks.foldl (·.erase ·) im)[k]? = if k ∈ ks then none else im[k]? := by
  induction ks with
  | nil => simp
  | cons k' ks ih =>
    intro im k
    rw [foldl_cons, ih]
    by_cases hk : k ∈ ks
    · simp [hk]
    · by_cases hkk : k' = k
      · simp [hkk]
      · have hkk' : k ≠ k' := fun h => hkk h.symm
        simp [hk, hkk, hkk', TreeMap.getElem?_erase]

lemma get?_insert [DecidableEq K] (m : BrowserInfoMap K V cmp) (b b' : Int) (k k' : K) (v : V) :
    (m.insert b k v).get? b' k' = if b' = b ∧ k' = k then some v else m.get? b' k' := by
  unfold insert get?
  by_cases hb : b' = b
  · subst hb
    simp only [TreeMap.getElem?_insert_self, bind_some, true_and]
    by_cases hk : k' = k
    · simp [hk]
    · have hk' : ¬ k = k' := fun h => hk h.symm
      cases h : m.map[b']? with
      | none => simp [hk, hk']
      | some im => simp [TreeMap.getElem?_insert, hk, hk']
  · have hb' : ¬ b = b' := fun h => hb h.symm
    simp [TreeMap.getElem?_insert, hb, hb']

lemma get?_find [DecidableEq K] (m : BrowserInfoMap K V cmp) (b : Int) (k : K)
    (visit : Visitor σ K V) (s : σ) : (m.find b k (some visit) s).2.1.get? =
      match m.get? b k with
      | none => m.get?
      | some v => if (visit b k v s).1.result = .removeEntry then Lookup.remove m.get? b k
        else m.get? := by
  cases hb : m.map[b]? with
  | none => simp [find, hb, get?_of_map_none hb]
  | some im =>
    rw [get?_of_map hb]
    cases hk : im[k]? with
    | none => simp [find, hb, hk]
    | some v =>
      simp only [find, hb, hk]
      split
      · funext b' k'
        rw [get?_putBack]
        unfold Lookup.remove
        by_cases hb' : b' = b
        · subst hb'
          by_cases hk' : k' = k
          · simp [hk']
          · have hk'' : k ≠ k' := fun h => hk' h.symm
            simp [hk', hk'', TreeMap.getElem?_erase, get?_of_map hb]
        · simp [hb']
      · rfl

/-! ### The rules for walks -/

section Rules

variable [DecidableEq K] {J : (Int → K → Option V) → σ → Prop} {visit : Visitor σ K V}

/-- The inner loop of a walk keeps what each visit keeps.

**Proof sketch.** Induction on the entries still to be visited. They have distinct keys, so
taking out the entry just rejected leaves the later ones in the lookup. -/
lemma visitEntries_rule (hvisit : ∀ g s k v, J g s → g b k = some v →
      J (if (visit b k v s).1.result = .removeEntry then Lookup.remove g b k else g)
        (visit b k v s).2) :
    ∀ (entries : List (K × V)) (g : Int → K → Option V) (s : σ), J g s →
      (∀ e ∈ entries, g b e.1 = some e.2) → (entries.map Prod.fst).Nodup →
      J ((visitEntries visit b entries s).1.foldl (fun g k => Lookup.remove g b k) g)
        (visitEntries visit b entries s).2.2
  | [], g, s, hJ, _, _ => hJ
  | (k, v) :: rest, g, s, hJ, hmem, hnd => by
    have hv := hvisit g s k v hJ (hmem (k, v) (by simp))
    have hne : ∀ e ∈ rest, e.1 ≠ k := by
      intro e he heq
      rw [map_cons, nodup_cons] at hnd
      exact hnd.1 (mem_map.mpr ⟨e, he, heq⟩)
    have hrest : ∀ e ∈ rest, g b e.1 = some e.2 := fun e he => hmem e (by simp [he])
    have hrest' : ∀ e ∈ rest, Lookup.remove g b k b e.1 = some e.2 := fun e he =>
      Lookup.remove_eq_some.mpr ⟨fun h => hne e he h.2, hrest e he⟩
    have hnd' : (rest.map Prod.fst).Nodup := (nodup_cons.mp hnd).2
    simp only [visitEntries]
    by_cases hr : (visit b k v s).1.result = .removeEntry
    · rw [if_pos hr] at hv
      by_cases hs : (visit b k v s).1.stops
      · simpa [hs, hr] using hv
      · simpa [hs, hr] using visitEntries_rule hvisit rest _ _ hv hrest' hnd'
    · rw [if_neg hr] at hv
      by_cases hs : (visit b k v s).1.stops
      · simpa [hs, hr] using hv
      · simpa [hs, hr] using visitEntries_rule hvisit rest _ _ hv hrest hnd'

lemma get?_putBack_foldl_erase {m : TreeMap Int (TreeMap K V cmp)}
    {im : TreeMap K V cmp} (h : m[b]? = some im) (ks : List K) :
    get? ⟨putBack m b (ks.foldl (·.erase ·) im)⟩ =
      ks.foldl (fun g k => Lookup.remove g b k) (get? ⟨m⟩) := by
  funext b' k'
  rw [get?_putBack, Lookup.foldl_remove, getElem?_foldl_erase]
  by_cases hb : b' = b
  · subst hb
    simp [get?, h]
  · simp [hb]

/-- **The rule for a walk over one browser's entries**: what each visit keeps of the entries
still present and of the visitor's state holds after the walk. -/
theorem findBrowserAll_rule {m : BrowserInfoMap K V cmp} {s : σ} (h : J m.get? s)
    (hvisit : ∀ g s k v, J g s → g b k = some v →
      J (if (visit b k v s).1.result = .removeEntry then Lookup.remove g b k else g)
        (visit b k v s).2) :
    J (m.findBrowserAll b visit s).1.get? (m.findBrowserAll b visit s).2 := by
  unfold findBrowserAll
  split
  · exact h
  · cases hb : m.map[b]? with
    | none => exact h
    | some im =>
      have hmem : ∀ e ∈ im.toList, m.get? b e.1 = some e.2 := by
        intro e he
        rw [get?_of_map hb]
        exact mem_toList_iff_getElem?_eq_some.mp he
      have := visitEntries_rule hvisit im.toList m.get? s h hmem (nodup_fst_toList im)
      rw [get?_putBack_foldl_erase hb]
      exact this

lemma findAllLoop_rule (hvisit : ∀ g s b k v, J g s → g b k = some v →
      J (if (visit b k v s).1.result = .removeEntry then Lookup.remove g b k else g)
        (visit b k v s).2) :
    ∀ (bs : List Int) (m : TreeMap Int (TreeMap K V cmp)) (s : σ), J (get? ⟨m⟩) s →
      J (get? ⟨(findAllLoop visit bs m s).1⟩) (findAllLoop visit bs m s).2
  | [], m, s, h => h
  | b :: bs, m, s, h => by
    unfold findAllLoop
    cases hb : m[b]? with
    | none => exact h
    | some im =>
      have hmem : ∀ e ∈ im.toList, get? ⟨m⟩ b e.1 = some e.2 := by
        intro e he
        rw [get?_of_map (m := ⟨m⟩) hb]
        exact mem_toList_iff_getElem?_eq_some.mp he
      have hv := visitEntries_rule (fun g s k v => hvisit g s b k v) im.toList (get? ⟨m⟩) s h
        hmem (nodup_fst_toList im)
      rw [← get?_putBack_foldl_erase hb] at hv
      dsimp only
      split
      · exact hv
      · exact findAllLoop_rule hvisit bs _ _ hv

theorem findAll_rule {m : BrowserInfoMap K V cmp} {s : σ} (h : J m.get? s)
    (hvisit : ∀ g s b k v, J g s → g b k = some v →
      J (if (visit b k v s).1.result = .removeEntry then Lookup.remove g b k else g)
        (visit b k v s).2) :
    J (m.findAll visit s).1.get? (m.findAll visit s).2 :=
  findAllLoop_rule hvisit _ _ _ h

end Rules

/-! ### Visitors that select -/

section Selection

/-- The visitor acts on the entries that meet `p` and wants them removed, and passes over the
others; it never stops the walk. -/
def Selects (visit : Visitor σ K V) (p : K → V → Bool) (act : K → V → σ → σ) : Prop :=
  ∀ b k v s, visit b k v s =
    if p k v then (.cont .removeEntry, act k v s) else (.cont .keepEntry, s)

/-- The visitor does this to the first entry that meets `p` and stops there. -/
def SelectsFirst (visit : Visitor σ K V) (p : K → V → Bool) (act : K → V → σ → σ) : Prop :=
  ∀ b k v s, visit b k v s =
    if p k v then (.brk .removeEntry, act k v s) else (.cont .keepEntry, s)

variable {visit : Visitor σ K V} {p : K → V → Bool} {act : K → V → σ → σ}

omit [TransCmp cmp] [LawfulEqCmp cmp] in
lemma Selects.visitEntries (h : Selects visit p act) (b : Int) : ∀ (l : List (K × V)) (s : σ),
    visitEntries visit b l s = ((l.filter fun e => p e.1 e.2).map Prod.fst, false,
      (l.filter fun e => p e.1 e.2).foldl (fun s e => act e.1 e.2 s) s)
  | [], s => rfl
  | (k, v) :: l, s => by
    cases hp : p k v <;>
      simp [BrowserInfoMap.visitEntries, h b k v s, hp, ControlFlow.result, ControlFlow.stops,
        Selects.visitEntries h b l]

omit [TransCmp cmp] [LawfulEqCmp cmp] in
lemma SelectsFirst.visitEntries (h : SelectsFirst visit p act) (b : Int) :
    ∀ (l : List (K × V)) (s : σ), (visitEntries visit b l s).1 =
        (l.find? fun e => p e.1 e.2).toList.map Prod.fst ∧
      (visitEntries visit b l s).2.2 =
        (l.find? fun e => p e.1 e.2).toList.foldl (fun s e => act e.1 e.2 s) s
  | [], s => ⟨rfl, rfl⟩
  | (k, v) :: l, s => by
    cases hp : p k v with
    | true => simp [BrowserInfoMap.visitEntries, h b k v s, hp, ControlFlow.result,
        ControlFlow.stops]
    | false =>
      simpa [BrowserInfoMap.visitEntries, h b k v s, hp, ControlFlow.result,
        ControlFlow.stops] using SelectsFirst.visitEntries h b l s

lemma findBrowserAll_targets [DecidableEq K] (m : BrowserInfoMap K V cmp) (b : Int) (s : σ)
    (select : List (K × V) → List (K × V)) (hnil : select [] = [])
    (hvisit : ∀ l, (BrowserInfoMap.visitEntries visit b l s).1 = (select l).map Prod.fst ∧
      (BrowserInfoMap.visitEntries visit b l s).2.2 =
        (select l).foldl (fun s e => act e.1 e.2 s) s) :
    (m.findBrowserAll b visit s).2 =
        (select (m.browserEntries b)).foldl (fun s e => act e.1 e.2 s) s ∧
      ∀ b' k, (m.findBrowserAll b visit s).1.get? b' k =
        if b' = b ∧ k ∈ (select (m.browserEntries b)).map Prod.fst then none
        else m.get? b' k := by
  unfold findBrowserAll
  split
  · rename_i hempty
    rw [browserEntries_of_isEmpty hempty, hnil]
    exact ⟨rfl, by simp⟩
  · cases hb : m.map[b]? with
    | none =>
      have hentries : m.browserEntries b = [] := by simp [browserEntries, hb]
      rw [hentries, hnil]
      exact ⟨rfl, by simp⟩
    | some im =>
      have hentries : m.browserEntries b = im.toList := by simp [browserEntries, hb]
      obtain ⟨hremoved, hstate⟩ := hvisit im.toList
      rw [hentries]
      refine ⟨hstate, fun b' k => ?_⟩
      rw [get?_putBack_foldl_erase hb, Lookup.foldl_remove, hremoved]

lemma Selects.findBrowserAll [DecidableEq K] (h : Selects visit p act)
    (m : BrowserInfoMap K V cmp) (b : Int) (s : σ) :
    (m.findBrowserAll b visit s).2 = ((m.browserEntries b).filter fun e => p e.1 e.2).foldl
        (fun s e => act e.1 e.2 s) s ∧
      ∀ b' k, (m.findBrowserAll b visit s).1.get? b' k =
        if b' = b ∧ k ∈ ((m.browserEntries b).filter fun e => p e.1 e.2).map Prod.fst then none
        else m.get? b' k :=
  m.findBrowserAll_targets b s (List.filter fun e => p e.1 e.2) rfl fun l => by
    rw [h.visitEntries]
    exact ⟨rfl, rfl⟩

lemma SelectsFirst.findBrowserAll [DecidableEq K] (h : SelectsFirst visit p act)
    (m : BrowserInfoMap K V cmp) (b : Int) (s : σ) :
    (m.findBrowserAll b visit s).2 = ((m.browserEntries b).find? fun e => p e.1 e.2).toList.foldl
        (fun s e => act e.1 e.2 s) s ∧
      ∀ b' k, (m.findBrowserAll b visit s).1.get? b' k =
        if b' = b ∧ k ∈ ((m.browserEntries b).find? fun e => p e.1 e.2).toList.map Prod.fst
        then none else m.get? b' k :=
  m.findBrowserAll_targets b s (fun l => (l.find? fun e => p e.1 e.2).toList) rfl
    fun l => h.visitEntries b l s

lemma getElem?_foldl_erase_filter [DecidableEq K] (im : TreeMap K V cmp) (k : K) :
    (((im.toList.filter fun e => p e.1 e.2).map Prod.fst).foldl (·.erase ·) im)[k]? =
      im[k]?.filter fun v => !p k v := by
  rw [getElem?_foldl_erase]
  cases hk : im[k]? with
  | none => simp
  | some v =>
    have hmem : k ∈ (im.toList.filter fun e => p e.1 e.2).map Prod.fst ↔ p k v = true := by
      simp only [List.mem_map, List.mem_filter, Prod.exists, mem_toList_iff_getElem?_eq_some]
      constructor
      · rintro ⟨k', v', ⟨hk', hp⟩, rfl⟩
        obtain rfl := some.inj (hk.symm.trans hk')
        exact hp
      · exact fun hp => ⟨k, v, ⟨hk, hp⟩, rfl⟩
    cases hp : p k v <;> simp [hmem, hp, Option.filter]

/-- The outer loop by a selecting visitor, over inner maps that are all still in place.

**Proof sketch.** Induction on the inner maps. Putting the first one back without its selected
entries leaves the later ones in place, since their browsers differ. -/
lemma Selects.findAllLoop [DecidableEq K] (h : Selects visit p act) :
    ∀ (l : List (Int × TreeMap K V cmp)) (m : TreeMap Int (TreeMap K V cmp)) (s : σ),
      (∀ e ∈ l, m[e.1]? = some e.2) → (l.map Prod.fst).Nodup →
      (findAllLoop visit (l.map Prod.fst) m s).2 =
          ((l.flatMap fun e => e.2.toList).filter fun e => p e.1 e.2).foldl
            (fun s e => act e.1 e.2 s) s ∧
        ∀ b k, get? ⟨(findAllLoop visit (l.map Prod.fst) m s).1⟩ b k =
          if b ∈ l.map Prod.fst then (get? ⟨m⟩ b k).filter fun v => !p k v else get? ⟨m⟩ b k
  | [], m, s, _, _ => ⟨rfl, fun _ _ => rfl⟩
  | (b, im) :: l, m, s, hm, hnd => by
    have hb : m[b]? = some im := hm (b, im) (by simp)
    obtain ⟨hnotin, hnd⟩ := nodup_cons.mp hnd
    set kept := (((im.toList.filter fun e => p e.1 e.2).map Prod.fst).foldl (·.erase ·) im)
      with hkept
    have hrest : ∀ e ∈ l, (putBack m b kept)[e.1]? = some e.2 := by
      intro e he
      have hne : b ≠ e.1 := fun heq => hnotin (mem_map.mpr ⟨e, he, heq.symm⟩)
      rw [← hm e (by simp [he])]
      unfold putBack
      split <;> simp [TreeMap.getElem?_erase, TreeMap.getElem?_insert, hne]
    have hput : ∀ b' k, get? ⟨putBack m b kept⟩ b' k =
        if b' = b then (get? ⟨m⟩ b k).filter fun v => !p k v else get? ⟨m⟩ b' k := by
      intro b' k
      rw [get?_putBack, get?_of_map (m := ⟨m⟩) hb]
      split
      · rw [hkept, getElem?_foldl_erase_filter]
      · rfl
    obtain ⟨hstate, hmap⟩ := Selects.findAllLoop h l (putBack m b kept)
      ((im.toList.filter fun e => p e.1 e.2).foldl (fun s e => act e.1 e.2 s) s) hrest hnd
    simp only [map_cons, BrowserInfoMap.findAllLoop, hb, h.visitEntries, Bool.false_eq_true,
      if_false, flatMap_cons, filter_append, foldl_append]
    refine ⟨hstate, fun b' k => ?_⟩
    rw [hmap, hput]
    by_cases hbb : b' = b
    · subst hbb
      rw [if_neg hnotin, if_pos rfl, if_pos mem_cons_self]
    · rw [if_neg hbb]
      exact if_congr (by simp [hbb]) rfl rfl

lemma Selects.findAll [DecidableEq K] (h : Selects visit p act) (m : BrowserInfoMap K V cmp)
    (s : σ) :
    (m.findAll visit s).2 = (m.entries.filter fun e => p e.2.1 e.2.2).foldl
        (fun s e => act e.2.1 e.2.2 s) s ∧
      ∀ b k, (m.findAll visit s).1.get? b k = (m.get? b k).filter fun v => !p k v := by
  obtain ⟨hstate, hmap⟩ := h.findAllLoop m.map.toList m.map s
    (fun e he => mem_toList_iff_getElem?_eq_some.mp he) (nodup_fst_toList m.map)
  rw [map_fst_toList_eq_keys] at hstate hmap
  have hforget : (m.map.toList.flatMap fun e => e.2.toList) = m.entries.map Prod.snd := by
    simp [entries, map_flatMap, Function.comp_def]
  refine ⟨?_, fun b k => (hmap b k).trans ?_⟩
  · rw [hforget, List.filter_map, List.foldl_map] at hstate
    exact hstate
  · split
    · rfl
    · rename_i hnot
      have hnone : m.map[b]? = none :=
        TreeMap.getElem?_eq_none fun hb => hnot (mem_keys.mpr hb)
      simp [get?, hnone]

end Selection

end BrowserInfoMap

end CefCore.MessageRouter
