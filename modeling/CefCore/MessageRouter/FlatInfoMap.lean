import CefCore.Foundations.Walk
import CefCore.MessageRouter.BrowserInfoMap
import Mathlib.Data.List.Sort

/-!
# The info map as one map

A `BrowserInfoMap` is a map of maps, but it is meant to be used as one map with pairs of a browser id
and a key as its keys. Here are its operations with the panics of their `expect`s, and the same
operations on a map that has such pairs as its keys.

## Main results

* `BrowserInfoMap.refines_flat`: both give the same answers, and no `expect` fails.
-/

namespace CefCore.MessageRouter

open Std List Option BrowserInfoMap Walk

open TreeMap hiding keys

variable {K V σ : Type} {cmp : K → K → Ordering}

/-! ### What a caller does and sees -/

abbrev Visit (K V : Type) : Type := (Int × K × V) × ControlFlow

/-- The entries that the visitor wants removed, by their ids. -/
def rejected (visits : List (Visit K V)) : List (Int × K) :=
  (visits.filter fun e => e.2.result = .removeEntry).map fun e => (e.1.1, e.1.2.1)

def Visitor.onEntry (visit : Visitor σ K V) (e : Int × K × V) (s : σ) : ControlFlow × σ :=
  visit e.1 e.2.1 e.2.2 s

def Visitor.recorded (visit : Visitor σ K V) : Visitor (σ × List (Visit K V)) K V :=
  fun browserId key value s => Walk.recorded visit.onEntry (browserId, key, value) s

def Visitor.walk (visit : Visitor σ K V) (entries : List (Int × K × V)) (s : σ) :
    List (Visit K V) × σ :=
  Walk.walk ControlFlow.stops visit.onEntry entries s

/-- A call of an info map. Visitors act on a state of the caller. -/
inductive MapCall (σ K V : Type) where
  | insert (browserId : Int) (key : K) (value : V)
  | find (browserId : Int) (key : K) (visitor : Option (Visitor σ K V))
  | findAll (visitor : Visitor σ K V)
  | findBrowserAll (browserId : Int) (visitor : Visitor σ K V)
  | isEmpty
  | len
  | browserLen (browserId : Int)
  | clear

inductive Answer (V : Type) where
  | unit
  | value (value : Option V)
  | flag (value : Bool)
  | count (value : Nat)

/-- What the caller sees: what the call returns, and the visits. -/
structure MapOutcome (K V : Type) where
  answer : Answer V
  visits : List (Visit K V)

/-! ### The map of maps -/

namespace BrowserInfoMap

/-- The loop over the keys of an inner map: the keys to remove, whether the visitor stopped, and its
state. -/
def visitKeys (visit : Visitor σ K V) (browserId : Int) (infoMap : TreeMap K V cmp) :
    List K → σ → Option (List K × Bool × σ)
  | [], s => some ([], false, s)
  | key :: keys, s =>
    match infoMap[key]? with
    -- `expect("missing value")`
    | none => none
    | some value =>
      let (flow, s') := visit browserId key value s
      let removed := if flow.result = .removeEntry then [key] else []
      if flow.stops then some (removed, true, s')
      else do
        let (removed', stop, s'') ← visitKeys visit browserId infoMap keys s'
        return (removed ++ removed', stop, s'')

/-- The loop of `find_all` over the browser ids, with its panics. -/
def findAllLoop? (visit : Visitor σ K V) :
    List Int → TreeMap Int (TreeMap K V cmp) → σ → Option (TreeMap Int (TreeMap K V cmp) × σ)
  | [], m, s => some (m, s)
  | browserId :: rest, m, s =>
    match m[browserId]? with
    -- `expect("missing browser info map")`
    | none => none
    | some infoMap => do
      let (removed, stop, s') ← visitKeys visit browserId infoMap infoMap.keys s
      let m' := putBack m browserId (removed.foldl (·.erase ·) infoMap)
      if stop then return (m', s') else findAllLoop? visit rest m' s'

/-- `find_all`, with its panics. -/
def findAll? (m : BrowserInfoMap K V cmp) (visit : Visitor σ K V) (s : σ) :
    Option (BrowserInfoMap K V cmp × σ) := do
  let (m', s') ← findAllLoop? visit m.map.keys m.map s
  return (⟨m'⟩, s')

/-- `find_browser_all`, with its panics. -/
def findBrowserAll? (m : BrowserInfoMap K V cmp) (browserId : Int) (visit : Visitor σ K V) (s : σ) :
    Option (BrowserInfoMap K V cmp × σ) :=
  if m.map.isEmpty then some (m, s)
  else match m.map[browserId]? with
    | none => some (m, s)
    | some infoMap => do
      let (removed, _, s') ← visitKeys visit browserId infoMap infoMap.keys s
      return (⟨putBack m.map browserId (removed.foldl (·.erase ·) infoMap)⟩, s')

def call (m : BrowserInfoMap K V cmp) (s : σ) :
    MapCall σ K V → Option (MapOutcome K V × BrowserInfoMap K V cmp × σ)
  | .insert browserId key value => some (⟨.unit, []⟩, m.insert browserId key value, s)
  | .find browserId key visitor =>
    let (value, m', s', visits) := m.find browserId key (visitor.map Visitor.recorded) (s, [])
    some (⟨.value value, visits⟩, m', s')
  | .findAll visit => do
    let (m', s', visits) ← m.findAll? visit.recorded (s, [])
    return (⟨.unit, visits⟩, m', s')
  | .findBrowserAll browserId visit => do
    let (m', s', visits) ← m.findBrowserAll? browserId visit.recorded (s, [])
    return (⟨.unit, visits⟩, m', s')
  | .isEmpty => some (⟨.flag m.isEmpty, []⟩, m, s)
  | .len => some (⟨.count m.len, []⟩, m, s)
  | .browserLen browserId => some (⟨.count (m.browserLen browserId), []⟩, m, s)
  | .clear => some (⟨.unit, []⟩, ∅, s)

def run : List (MapCall σ K V) → BrowserInfoMap K V cmp → σ →
    Option (List (MapOutcome K V) × BrowserInfoMap K V cmp × σ)
  | [], m, s => some ([], m, s)
  | c :: calls, m, s => do
    let (outcome, m', s') ← m.call s c
    let (outcomes, m'', s'') ← run calls m' s'
    return (outcome :: outcomes, m'', s'')

end BrowserInfoMap

/-! ### One map -/

def keyOrder (cmp : K → K → Ordering) : Int × K → Int × K → Ordering :=
  compareLex (compareOn Prod.fst) fun a b => cmp a.2 b.2

abbrev FlatMap (K V : Type) (cmp : K → K → Ordering) : Type := TreeMap (Int × K) V (keyOrder cmp)

namespace FlatMap

section

variable (f : FlatMap K V cmp)

def entries : List (Int × K × V) := f.toList.map fun e => (e.1.1, e.1.2, e.2)

def browserEntries (browserId : Int) : List (Int × K × V) :=
  f.entries.filter fun e => e.1 = browserId

/-- The map without the entries that a visitor wants removed. -/
def without (visits : List (Visit K V)) : FlatMap K V cmp :=
  (rejected visits).foldl (·.erase ·) f

def visitAll (entries : List (Int × K × V)) (visit : Visitor σ K V) (s : σ) :
    MapOutcome K V × FlatMap K V cmp × σ :=
  let (visits, s') := visit.walk entries s
  (⟨.unit, visits⟩, f.without visits, s')

def call (s : σ) : MapCall σ K V → MapOutcome K V × FlatMap K V cmp × σ
  | .insert browserId key value => (⟨.unit, []⟩, f.insert (browserId, key) value, s)
  | .find browserId key visitor =>
    match f[(browserId, key)]?, visitor with
    | some value, some visit =>
      let (visits, s') := visit.walk [(browserId, key, value)] s
      (⟨.value (some value), visits⟩, f.without visits, s')
    | value, _ => (⟨.value value, []⟩, f, s)
  | .findAll visit => f.visitAll f.entries visit s
  | .findBrowserAll browserId visit => f.visitAll (f.browserEntries browserId) visit s
  | .isEmpty => (⟨.flag f.isEmpty, []⟩, f, s)
  | .len => (⟨.count f.size, []⟩, f, s)
  | .browserLen browserId => (⟨.count (f.browserEntries browserId).length, []⟩, f, s)
  | .clear => (⟨.unit, []⟩, ∅, s)

end

def run : List (MapCall σ K V) → FlatMap K V cmp → σ → List (MapOutcome K V) × FlatMap K V cmp × σ
  | [], f, s => ([], f, s)
  | c :: calls, f, s =>
    let (outcome, f', s') := f.call s c
    let (outcomes, f'', s'') := run calls f' s'
    (outcome :: outcomes, f'', s'')

end FlatMap

/-! ### Walks -/

lemma rejected_append (visits visits' : List (Visit K V)) :
    rejected (visits ++ visits') = rejected visits ++ rejected visits' := by
  simp [rejected]

lemma Visitor.walk_recorded (visit : Visitor σ K V) (entries : List (Int × K × V)) (s : σ) :
    visit.recorded.walk entries (s, []) =
      ((visit.walk entries s).1, (visit.walk entries s).2, (visit.walk entries s).1) :=
  Walk.walk_recorded entries s []

lemma Visitor.walk_append (visit : Visitor σ K V) (l l' : List (Int × K × V)) (s : σ) :
    visit.walk (l ++ l') s =
      if Walk.Stopped ControlFlow.stops (visit.walk l s).1 then visit.walk l s
      else ((visit.walk l s).1 ++ (visit.walk l' (visit.walk l s).2).1,
        (visit.walk l' (visit.walk l s).2).2) :=
  Walk.walk_append l l' s

lemma Visitor.walk_singleton (visit : Visitor σ K V) (b : Int) (k : K) (v : V) (s : σ) :
    visit.walk [(b, k, v)] s = ([((b, k, v), (visit b k v s).1)], (visit b k v s).2) := by
  unfold Visitor.walk
  cases h : (visit.onEntry (b, k, v) s).1.stops with
  | true => exact walk_cons_of_stops h []
  | false => exact walk_cons_of_not_stops h []

def withBrowser (b : Int) (l : List (K × V)) : List (Int × K × V) := l.map fun e => (b, e.1, e.2)

namespace BrowserInfoMap

/-- **The inner loop** does not panic, and visits the entries one after another. -/
lemma visitKeys_eq (visit : Visitor σ K V) (b : Int) {im : TreeMap K V cmp} :
    ∀ (l : List (K × V)) (s : σ), (∀ e ∈ l, im[e.1]? = some e.2) →
      visitKeys visit b im (l.map Prod.fst) s =
        some ((rejected (visit.walk (withBrowser b l) s).1).map Prod.snd,
          Walk.Stopped ControlFlow.stops (visit.walk (withBrowser b l) s).1,
          (visit.walk (withBrowser b l) s).2)
  | [], s, _ => rfl
  | (k, v) :: l, s, hl => by
    have hk : im[k]? = some v := hl (k, v) mem_cons_self
    have ih := visitKeys_eq visit b l (visit b k v s).2 fun e he => hl e (mem_cons_of_mem _ he)
    rw [map_cons, visitKeys, hk]
    dsimp only
    cases hstops : (visit.onEntry (b, k, v) s).1.stops with
    | true =>
      have hflow : (visit b k v s).1.stops = true := hstops
      have hwalk : visit.walk (withBrowser b ((k, v) :: l)) s =
          ([((b, k, v), (visit b k v s).1)], (visit b k v s).2) := walk_cons_of_stops hstops _
      rw [hwalk, hflow, if_pos rfl]
      by_cases hr : (visit b k v s).1.result = .removeEntry <;>
        simp [rejected, hr, Walk.Stopped, hflow]
    | false =>
      have hflow : (visit b k v s).1.stops = false := hstops
      have hwalk : visit.walk (withBrowser b ((k, v) :: l)) s =
          (((b, k, v), (visit b k v s).1) :: (visit.walk (withBrowser b l) (visit b k v s).2).1,
            (visit.walk (withBrowser b l) (visit b k v s).2).2) :=
        walk_cons_of_not_stops hstops _
      rw [hwalk, hflow, if_neg Bool.false_ne_true, ih]
      by_cases hr : (visit b k v s).1.result = .removeEntry <;>
        simp [rejected, hr, Walk.Stopped, hflow]

variable [TransCmp cmp] [LawfulEqCmp cmp] [DecidableEq K]

def NoneEmpty (m : TreeMap Int (TreeMap K V cmp)) : Prop :=
  ∀ (b : Int) (im : TreeMap K V cmp), m[b]? = some im → im.isEmpty = false

omit [TransCmp cmp] [LawfulEqCmp cmp] [DecidableEq K] in
lemma NoneEmpty.putBack {m : TreeMap Int (TreeMap K V cmp)} (h : NoneEmpty m) (b : Int)
    (im : TreeMap K V cmp) : NoneEmpty (putBack m b im) := by
  intro b' im' hb'
  unfold BrowserInfoMap.putBack at hb'
  split at hb'
  · rw [TreeMap.getElem?_erase] at hb'
    split at hb'
    · cases hb'
    · exact h b' im' hb'
  · rename_i hne
    rw [TreeMap.getElem?_insert] at hb'
    split at hb'
    · rw [← some.inj hb']
      simpa using hne
    · exact h b' im' hb'

omit [DecidableEq K] in
lemma mem_rejected_withBrowser {visit : Visitor σ K V} {b b' : Int} {l : List (K × V)} {s : σ}
    {k : K} : (b', k) ∈ rejected (visit.walk (withBrowser b l) s).1 ↔
      b' = b ∧ k ∈ (rejected (visit.walk (withBrowser b l) s).1).map Prod.snd := by
  have hbrowser : ∀ e ∈ (visit.walk (withBrowser b l) s).1, e.1.1 = b := by
    intro e he
    have hmem : e.1 ∈ withBrowser b l :=
      (fst_isPrefix _ _).subset (List.mem_map_of_mem he)
    obtain ⟨_, _, heq⟩ := List.mem_map.mp hmem
    rw [← heq]
  simp only [rejected, List.mem_map, List.mem_filter, Prod.mk.injEq, exists_exists_and_eq_and]
  constructor
  · rintro ⟨e, he, rfl, rfl⟩
    exact ⟨hbrowser e he.1, e, he, rfl⟩
  · rintro ⟨rfl, e, he, rfl⟩
    exact ⟨e, he, hbrowser e he.1, rfl⟩

lemma get?_putBack_walk (visit : Visitor σ K V) {m : TreeMap Int (TreeMap K V cmp)} {b : Int}
    {im : TreeMap K V cmp} (hb : m[b]? = some im) (s : σ) (b' : Int) (k : K) :
    get? ⟨putBack m b (((rejected (visit.walk (withBrowser b im.toList) s).1).map Prod.snd).foldl
        (·.erase ·) im)⟩ b' k =
      if (b', k) ∈ rejected (visit.walk (withBrowser b im.toList) s).1 then none
      else get? ⟨m⟩ b' k := by
  rw [get?_putBack_foldl_erase hb, Lookup.foldl_remove]
  exact if_congr mem_rejected_withBrowser.symm rfl rfl

/-- **The outer loop** does not panic: it visits the entries of all inner maps, which are still in
place when their turn comes, one after another.

**Proof sketch.** Induction on the inner maps. Putting the first one back leaves the others in
place, since their browsers differ. -/
lemma findAllLoop?_eq (visit : Visitor σ K V) :
    ∀ (l : List (Int × TreeMap K V cmp)) (m : TreeMap Int (TreeMap K V cmp)) (s : σ),
      (∀ e ∈ l, m[e.1]? = some e.2) → (l.map Prod.fst).Nodup →
      ∃ m', findAllLoop? visit (l.map Prod.fst) m s = some
          (m', (visit.walk (l.flatMap fun e => withBrowser e.1 e.2.toList) s).2) ∧
        (NoneEmpty m → NoneEmpty m') ∧
        ∀ b k, get? ⟨m'⟩ b k =
          if (b, k) ∈ rejected (visit.walk (l.flatMap fun e => withBrowser e.1 e.2.toList) s).1
          then none else get? ⟨m⟩ b k
  | [], m, s, _, _ => ⟨m, rfl, id, fun _ _ => rfl⟩
  | (b, im) :: l, m, s, hm, hnd => by
    have hb : m[b]? = some im := hm (b, im) mem_cons_self
    obtain ⟨hnotin, hnd⟩ := nodup_cons.mp hnd
    have hentries : ∀ e ∈ im.toList, im[e.1]? = some e.2 := fun e he =>
      mem_toList_iff_getElem?_eq_some.mp he
    have hkeys := visitKeys_eq visit b im.toList s hentries
    rw [map_fst_toList_eq_keys] at hkeys
    set m₁ := putBack m b (((rejected (visit.walk (withBrowser b im.toList) s).1).map Prod.snd).foldl
      (·.erase ·) im) with hm₁
    have hput := get?_putBack_walk visit hb s
    rw [← hm₁] at hput
    have happend := visit.walk_append (withBrowser b im.toList)
      (l.flatMap fun e => withBrowser e.1 e.2.toList) s
    rw [flatMap_cons, map_cons, findAllLoop?, hb]
    simp only [hkeys, bind_eq_bind, bind_some, ← hm₁]
    cases hstopped : Walk.Stopped ControlFlow.stops (visit.walk (withBrowser b im.toList) s).1 with
    | true =>
      rw [hstopped, if_pos rfl] at happend
      rw [happend]
      exact ⟨m₁, rfl, fun h => h.putBack b _, hput⟩
    | false =>
      rw [hstopped, if_neg Bool.false_ne_true] at happend
      rw [happend]
      have hrest : ∀ e ∈ l, m₁[e.1]? = some e.2 := by
        intro e he
        have hne : b ≠ e.1 := fun heq => hnotin (mem_map.mpr ⟨e, he, heq.symm⟩)
        rw [← hm e (mem_cons_of_mem _ he), hm₁]
        unfold putBack
        split <;> simp [TreeMap.getElem?_erase, TreeMap.getElem?_insert, hne]
      obtain ⟨m', hloop, hnone, hmap⟩ :=
        findAllLoop?_eq visit l m₁ (visit.walk (withBrowser b im.toList) s).2 hrest hnd
      refine ⟨m', hloop, fun h => hnone (h.putBack b _), fun b' k => ?_⟩
      rw [rejected_append, hmap, hput]
      simp only [mem_append]
      split_ifs <;> simp_all

end BrowserInfoMap

/-! ### The two maps together -/

section Flattens

open BrowserInfoMap

structure Flattens (m : BrowserInfoMap K V cmp) (f : FlatMap K V cmp) : Prop where
  lookup : ∀ b k, m.get? b k = f[(b, k)]?
  noneEmpty : NoneEmpty m.map

lemma keyOrder_eq_lt_iff {p q : Int × K} : keyOrder cmp p q = .lt ↔
    p.1 < q.1 ∨ p.1 = q.1 ∧ cmp p.2 q.2 = .lt := by
  rw [keyOrder, compareLex, Ordering.then_eq_lt, compareOn, Int.compare_eq_lt, Int.compare_eq_eq]

instance [TransCmp cmp] : TransCmp (keyOrder cmp) :=
  have : TransCmp fun a b : Int × K => cmp a.2 b.2 :=
    { eq_swap := OrientedCmp.eq_swap, isLE_trans := TransCmp.isLE_trans }
  inferInstanceAs (TransCmp (compareLex _ _))

instance [TransCmp cmp] [LawfulEqCmp cmp] : LawfulEqCmp (keyOrder cmp) where
  eq_of_compare {p q} h := by
    obtain ⟨hfst, hsnd⟩ := Ordering.then_eq_eq.mp h
    exact Prod.ext (Int.compare_eq_eq.mp hfst) (LawfulEqCmp.eq_of_compare hsnd)

variable [TransCmp cmp] [LawfulEqCmp cmp] {m : BrowserInfoMap K V cmp} {f : FlatMap K V cmp}

/-- Two entries in ascending order. -/
def EntryBefore (cmp : K → K → Ordering) (e e' : Int × K × V) : Prop :=
  keyOrder cmp (e.1, e.2.1) (e'.1, e'.2.1) = .lt

instance : Std.Irrefl (EntryBefore (V := V) cmp) where
  irrefl e h := by
    have heq : keyOrder cmp (e.1, e.2.1) (e.1, e.2.1) = .eq := ReflCmp.compare_self
    rw [EntryBefore, heq] at h
    cases h

instance : Std.Antisymm (EntryBefore (V := V) cmp) where
  antisymm _ _ h h' := absurd h' (OrientedCmp.not_lt_of_lt h)

omit [LawfulEqCmp cmp] in
lemma FlatMap.entries_ascending (f : FlatMap K V cmp) : f.entries.Pairwise (EntryBefore cmp) := by
  rw [FlatMap.entries, pairwise_map]
  exact f.ordered_keys_toList

lemma FlatMap.mem_entries {b : Int} {k : K} {v : V} :
    (b, k, v) ∈ f.entries ↔ f[(b, k)]? = some v := by
  simp [FlatMap.entries, mem_toList_iff_getElem?_eq_some]

omit [LawfulEqCmp cmp] in
lemma BrowserInfoMap.entries_ascending (m : BrowserInfoMap K V cmp) :
    m.entries.Pairwise (EntryBefore cmp) := by
  refine pairwise_flatMap.mpr ⟨fun e _ => ?_, ?_⟩
  · rw [pairwise_map]
    refine e.2.ordered_keys_toList.imp fun h => ?_
    exact keyOrder_eq_lt_iff.mpr (.inr ⟨rfl, h⟩)
  · refine m.map.ordered_keys_toList.imp fun {e e'} h x hx x' hx' => ?_
    obtain ⟨_, _, rfl⟩ := mem_map.mp hx
    obtain ⟨_, _, rfl⟩ := mem_map.mp hx'
    exact keyOrder_eq_lt_iff.mpr (.inl (Int.compare_eq_lt.mp h))

lemma Flattens.entries_eq (h : Flattens m f) : m.entries = f.entries := by
  refine List.Pairwise.eq_of_mem_iff m.entries_ascending f.entries_ascending fun ⟨b, k, v⟩ => ?_
  rw [mem_entries, FlatMap.mem_entries, h.lookup]

lemma Flattens.browserEntries_eq (h : Flattens m f) (b : Int) :
    withBrowser b (m.browserEntries b) = f.browserEntries b := by
  refine List.Pairwise.eq_of_mem_iff (r := EntryBefore cmp) ?_ (f.entries_ascending.filter _)
    fun ⟨b', k, v⟩ => ?_
  · rw [withBrowser, pairwise_map]
    unfold BrowserInfoMap.browserEntries
    cases m.map[b]? with
    | none => exact List.Pairwise.nil
    | some im =>
      refine im.ordered_keys_toList.imp fun hlt => ?_
      exact keyOrder_eq_lt_iff.mpr (.inr ⟨rfl, hlt⟩)
  · rw [FlatMap.browserEntries, mem_filter, FlatMap.mem_entries, ← h.lookup, withBrowser,
      List.mem_map]
    constructor
    · rintro ⟨⟨k', v'⟩, hmem, heq⟩
      obtain ⟨rfl, rfl, rfl⟩ : b = b' ∧ k' = k ∧ v' = v := by simpa using heq
      exact ⟨mem_browserEntries.mp hmem, by simp⟩
    · rintro ⟨hget, hb⟩
      obtain rfl : b' = b := by simpa using hb
      exact ⟨(k, v), mem_browserEntries.mpr hget, rfl⟩

omit [TransCmp cmp] [LawfulEqCmp cmp] in
lemma FlatMap.length_entries (f : FlatMap K V cmp) : f.entries.length = f.size := by
  rw [FlatMap.entries, length_map, TreeMap.length_toList]

lemma Flattens.isEmpty_eq (h : Flattens m f) : m.isEmpty = f.isEmpty := by
  cases hm : m.isEmpty with
  | true =>
    have hsize : f.size = 0 := by
      rw [← f.length_entries, ← h.entries_eq, entries_of_isEmpty hm]
      rfl
    rw [isEmpty_eq_size_eq_zero, hsize]
    rfl
  | false =>
    obtain ⟨b, hb⟩ := isEmpty_eq_false_iff_exists_mem.mp hm
    obtain ⟨im, him⟩ := mem_iff_isSome_getElem?.mp hb |> isSome_iff_exists.mp
    obtain ⟨k, hk⟩ := isEmpty_eq_false_iff_exists_mem.mp (h.noneEmpty b im him)
    obtain ⟨v, hv⟩ := mem_iff_isSome_getElem?.mp hk |> isSome_iff_exists.mp
    have hfound : f[(b, k)]? = some v := by rw [← h.lookup, get?_of_map him, hv]
    refine (TreeMap.isEmpty_eq_false_iff_exists_mem.mpr ⟨(b, k), ?_⟩).symm
    rw [mem_iff_isSome_getElem?, hfound]
    rfl

lemma FlatMap.getElem?_without [DecidableEq K] (f : FlatMap K V cmp) (visits : List (Visit K V))
    (b : Int) (k : K) :
    (f.without visits)[(b, k)]? = if (b, k) ∈ rejected visits then none else f[(b, k)]? := by
  rw [FlatMap.without, getElem?_foldl_erase]
  by_cases hmem : (b, k) ∈ rejected visits <;> simp [hmem]

omit [LawfulEqCmp cmp] in
lemma Flattens.empty : Flattens (∅ : BrowserInfoMap K V cmp) (∅ : FlatMap K V cmp) where
  lookup b k := by simp
  noneEmpty b im h := by
    have hnone : (∅ : TreeMap Int (TreeMap K V cmp))[b]? = some im := h
    rw [TreeMap.getElem?_emptyc] at hnone
    cases hnone

lemma Flattens.insert [DecidableEq K] (h : Flattens m f) (b : Int) (k : K) (v : V) :
    Flattens (m.insert b k v) (f.insert (b, k) v) where
  lookup b' k' := by
    rw [get?_insert, TreeMap.getElem?_insert, h.lookup]
    refine if_congr ?_ rfl rfl
    rw [LawfulEqCmp.compare_eq_iff_eq, Prod.mk.injEq, eq_comm (a := b), eq_comm (a := k)]
  noneEmpty b' im him := by
    rw [BrowserInfoMap.insert, TreeMap.getElem?_insert] at him
    split at him
    · rw [← some.inj him]
      exact isEmpty_insert
    · exact h.noneEmpty b' im him

lemma Flattens.without [DecidableEq K] (h : Flattens m f) {m' : BrowserInfoMap K V cmp}
    {visits : List (Visit K V)} (hnone : NoneEmpty m.map → NoneEmpty m'.map)
    (hlookup : ∀ b k, m'.get? b k = if (b, k) ∈ rejected visits then none else m.get? b k) :
    Flattens m' (f.without visits) where
  lookup b k := by rw [hlookup, FlatMap.getElem?_without, h.lookup]
  noneEmpty := hnone h.noneEmpty

lemma Flattens.findAll [DecidableEq K] (h : Flattens m f) (visit : Visitor σ K V) (s : σ) :
    ∃ m', m.findAll? visit s = some (m', (visit.walk f.entries s).2) ∧
      Flattens m' (f.without (visit.walk f.entries s).1) := by
  obtain ⟨m', hloop, hnone, hlookup⟩ := findAllLoop?_eq visit m.map.toList m.map s
    (fun e he => mem_toList_iff_getElem?_eq_some.mp he) (nodup_fst_toList m.map)
  have hentries : (m.map.toList.flatMap fun e => withBrowser e.1 e.2.toList) = f.entries :=
    h.entries_eq
  rw [hentries, map_fst_toList_eq_keys] at hloop
  rw [hentries] at hlookup
  refine ⟨⟨m'⟩, ?_, h.without hnone hlookup⟩
  rw [BrowserInfoMap.findAll?, hloop]
  rfl

lemma Flattens.findBrowserAll [DecidableEq K] (h : Flattens m f) (b : Int) (visit : Visitor σ K V)
    (s : σ) : ∃ m', m.findBrowserAll? b visit s = some (m', (visit.walk (f.browserEntries b) s).2) ∧
      Flattens m' (f.without (visit.walk (f.browserEntries b) s).1) := by
  have hentries := h.browserEntries_eq b
  unfold BrowserInfoMap.findBrowserAll?
  cases hb : m.map[b]? with
  | none =>
    have hnil : f.browserEntries b = [] := by
      rw [← hentries, BrowserInfoMap.browserEntries, hb]
      rfl
    rw [hnil]
    refine ⟨m, ?_, h⟩
    split <;> rfl
  | some im =>
    have hempty : m.map.isEmpty = false := isEmpty_eq_false_of_contains
      (contains_eq_isSome_getElem?.trans (by rw [hb]; rfl))
    have htoList : m.browserEntries b = im.toList := by rw [BrowserInfoMap.browserEntries, hb]; rfl
    rw [htoList] at hentries
    have hkeys := visitKeys_eq visit b im.toList s fun e he =>
      mem_toList_iff_getElem?_eq_some.mp he
    have hput := get?_putBack_walk visit hb s
    rw [map_fst_toList_eq_keys] at hkeys
    rw [hentries] at hkeys hput
    rw [if_neg (by rw [hempty]; exact Bool.false_ne_true)]
    simp only [hkeys, bind_eq_bind, bind_some]
    exact ⟨_, rfl, h.without (fun hnone => hnone.putBack b _) hput⟩

lemma Flattens.find [DecidableEq K] (h : Flattens m f) {b : Int} {k : K} {v : V}
    (hfound : m.get? b k = some v) (visit : Visitor σ K V) (s : σ) :
    ∃ m', m.find b k (some visit) s = (some v, m', (visit b k v s).2) ∧
      Flattens m' (f.without [((b, k, v), (visit b k v s).1)]) := by
  obtain ⟨im, him, hk⟩ := bind_eq_some_iff.mp hfound
  simp only [BrowserInfoMap.find, him, hk]
  by_cases hr : (visit b k v s).1.result = .removeEntry
  · rw [if_pos hr]
    refine ⟨_, rfl, h.without (fun hnone => hnone.putBack b _) fun b' k' => ?_⟩
    have hrejected : rejected [((b, k, v), (visit b k v s).1)] = [(b, k)] := by simp [rejected, hr]
    rw [hrejected, get?_putBack]
    by_cases hb : b' = b
    · subst hb
      by_cases hkk : k' = k
      · simp [hkk]
      · simp [hkk, TreeMap.getElem?_erase, Ne.symm hkk, get?_of_map him]
    · simp [hb]
  · rw [if_neg hr]
    refine ⟨_, rfl, h.without id fun b' k' => ?_⟩
    have hrejected : rejected [((b, k, v), (visit b k v s).1)] = [] := by simp [rejected, hr]
    rw [hrejected]
    exact (if_neg not_mem_nil).symm

/-- **A call** on the two maps: it does not panic on the map of maps, and what the caller sees is
the same. -/
theorem BrowserInfoMap.call_simulates [DecidableEq K] (h : Flattens m f) (s : σ)
    (c : MapCall σ K V) : ∃ o m' f' s', m.call s c = some (o, m', s') ∧ f.call s c = (o, f', s') ∧
      Flattens m' f' := by
  cases c with
  | insert b k v => exact ⟨_, _, _, _, rfl, rfl, h.insert b k v⟩
  | find b k visitor =>
    cases hfound : m.get? b k with
    | none =>
      have hflat : f[(b, k)]? = none := by rw [← h.lookup, hfound]
      have hfind : m.find b k (visitor.map Visitor.recorded) (s, []) = (none, m, s, []) := by
        cases hb : m.map[b]? with
        | none => simp [BrowserInfoMap.find, hb]
        | some im =>
          rw [get?_of_map hb] at hfound
          simp [BrowserInfoMap.find, hb, hfound]
      refine ⟨⟨.value none, []⟩, m, f, s, ?_, ?_, h⟩
      · rw [BrowserInfoMap.call, hfind]
      · simp [FlatMap.call, hflat]
    | some v =>
      have hflat : f[(b, k)]? = some v := by rw [← h.lookup, hfound]
      cases visitor with
      | none =>
        obtain ⟨im, him, hk⟩ := bind_eq_some_iff.mp hfound
        refine ⟨⟨.value (some v), []⟩, m, f, s, ?_, ?_, h⟩
        · simp [BrowserInfoMap.call, BrowserInfoMap.find, him, hk]
        · simp [FlatMap.call, hflat]
      | some visit =>
        obtain ⟨m', hfind, hwithout⟩ := h.find hfound visit.recorded (s, [])
        refine ⟨⟨.value (some v), [((b, k, v), (visit b k v s).1)]⟩, m', _, (visit b k v s).2, ?_, ?_,
          hwithout⟩
        · rw [BrowserInfoMap.call, map_some, hfind]
          rfl
        · simp only [FlatMap.call, hflat, Visitor.walk_singleton]
          rfl
  | findAll visit =>
    obtain ⟨m', hfind, hflat⟩ := h.findAll visit.recorded (s, [])
    rw [Visitor.walk_recorded] at hfind hflat
    refine ⟨_, m', _, _, ?_, rfl, hflat⟩
    rw [BrowserInfoMap.call, hfind]
    rfl
  | findBrowserAll b visit =>
    obtain ⟨m', hfind, hflat⟩ := h.findBrowserAll b visit.recorded (s, [])
    rw [Visitor.walk_recorded] at hfind hflat
    refine ⟨_, m', _, _, ?_, rfl, hflat⟩
    rw [BrowserInfoMap.call, hfind]
    rfl
  | isEmpty => exact ⟨_, m, f, s, rfl, by rw [FlatMap.call, h.isEmpty_eq], h⟩
  | len =>
    refine ⟨_, m, f, s, rfl, ?_, h⟩
    rw [FlatMap.call, ← f.length_entries, ← h.entries_eq, length_entries]
  | browserLen b =>
    refine ⟨_, m, f, s, rfl, ?_, h⟩
    rw [FlatMap.call, ← h.browserEntries_eq, withBrowser, length_map, length_browserEntries]
  | clear => exact ⟨_, _, _, s, rfl, rfl, Flattens.empty⟩

/-- What a caller sees of a walk: the entries in ascending order of their keys, and a wish to stop at
the last of them only. -/
def MapOutcome.Orderly (cmp : K → K → Ordering) (o : MapOutcome K V) : Prop :=
  o.visits.Pairwise (fun e e' => EntryBefore cmp e.1 e'.1) ∧
    ∀ e ∈ o.visits.dropLast, e.2.stops = false

omit [TransCmp cmp] [LawfulEqCmp cmp] in
lemma Visitor.walk_orderly (visit : Visitor σ K V) {entries : List (Int × K × V)}
    (h : entries.Pairwise (EntryBefore cmp)) (s : σ) (answer : Answer V) :
    MapOutcome.Orderly cmp ⟨answer, (visit.walk entries s).1⟩ := by
  refine ⟨?_, fun e he => not_stops_of_mem_dropLast he⟩
  have hsorted : ((visit.walk entries s).1.map Prod.fst).Pairwise (EntryBefore cmp) :=
    h.sublist (fst_isPrefix entries s).sublist
  exact pairwise_map.mp hsorted

omit [LawfulEqCmp cmp] in
lemma FlatMap.call_orderly (f : FlatMap K V cmp) (s : σ) (c : MapCall σ K V) :
    (f.call s c).1.Orderly cmp := by
  cases c with
  | find b k visitor =>
    have hnone : ∀ answer, MapOutcome.Orderly cmp (⟨answer, []⟩ : MapOutcome K V) := fun _ =>
      ⟨List.Pairwise.nil, nofun⟩
    cases hfound : f[(b, k)]? with
    | none => simpa [FlatMap.call, hfound] using hnone _
    | some v =>
      cases visitor with
      | none => simpa [FlatMap.call, hfound] using hnone _
      | some visit =>
        simpa [FlatMap.call, hfound] using
          visit.walk_orderly (pairwise_singleton _ _) s (.value (some v))
  | findAll visit => exact visit.walk_orderly f.entries_ascending s _
  | findBrowserAll b visit => exact visit.walk_orderly (f.entries_ascending.filter _) s _
  | insert | isEmpty | len | browserLen | clear => exact ⟨List.Pairwise.nil, nofun⟩

/-- Calls on the two maps, one after another.

**Proof sketch.** Induction on the calls: each of them leaves the two maps together. -/
theorem BrowserInfoMap.run_simulates [DecidableEq K] (h : Flattens m f) (s : σ)
    (calls : List (MapCall σ K V)) : ∃ outcomes m' f' s',
      m.run calls s = some (outcomes, m', s') ∧ f.run calls s = (outcomes, f', s') ∧
      Flattens m' f' ∧ ∀ o ∈ outcomes, o.Orderly cmp := by
  induction calls generalizing m f s with
  | nil => exact ⟨[], m, f, s, rfl, rfl, h, nofun⟩
  | cons c calls ih =>
    obtain ⟨o, m₁, f₁, s₁, hm, hf, h₁⟩ := call_simulates h s c
    obtain ⟨outcomes, m', f', s', hms, hfs, h', horderly⟩ := ih h₁ s₁
    have hfirst := f.call_orderly s c
    rw [hf] at hfirst
    refine ⟨o :: outcomes, m', f', s', ?_, ?_, h', forall_mem_cons.mpr ⟨hfirst, horderly⟩⟩
    · simp [BrowserInfoMap.run, hm, hms]
    · simp [FlatMap.run, hf, hfs]

/-- **The map of maps refines the flat map.** No call panics, in no sequence of calls from the empty
map; what the caller sees is what it sees of the flat map, with orderly visits; and in the end the
two maps hold the same, and no inner map is empty. -/
theorem BrowserInfoMap.refines_flat [DecidableEq K] (calls : List (MapCall σ K V)) (s : σ) :
    ∃ outcomes m f s', (∅ : BrowserInfoMap K V cmp).run calls s = some (outcomes, m, s') ∧
      (∅ : FlatMap K V cmp).run calls s = (outcomes, f, s') ∧
      (∀ b k, m.get? b k = f[(b, k)]?) ∧ NoneEmpty m.map ∧ ∀ o ∈ outcomes, o.Orderly cmp := by
  obtain ⟨outcomes, m, f, s', hm, hf, h, horderly⟩ :=
    run_simulates (@Flattens.empty K V cmp _) s calls
  exact ⟨outcomes, m, f, s', hm, hf, h.lookup, h.noneEmpty, horderly⟩

/-- The same, of keys that are numbers. -/
theorem BrowserInfoMap.refines_flat_int : ∃ outcomes m f s',
    (∅ : BrowserInfoMap Int Int compare).run
      [.insert 1 1 7, .findAll fun _ _ _ n => (.brk .removeEntry, n + 1), .len] 0 =
        some (outcomes, m, s') ∧
      (∅ : FlatMap Int Int compare).run
        [.insert 1 1 7, .findAll fun _ _ _ n => (.brk .removeEntry, n + 1), .len] 0 =
          (outcomes, f, s') ∧
      (∀ b k, m.get? b k = f[(b, k)]?) ∧ NoneEmpty m.map ∧ ∀ o ∈ outcomes, o.Orderly compare :=
  refines_flat
    [.insert 1 1 7, .findAll fun _ _ _ n => (.brk .removeEntry, n + 1), .len] 0

end Flattens

end CefCore.MessageRouter
