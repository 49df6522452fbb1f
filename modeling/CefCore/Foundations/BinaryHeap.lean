import CefCore.Foundations.PriorityQueue
import Mathlib.Logic.Equiv.Basic

/-!
# Binary heaps

The priority queue of the C++ standard library: an array in which no element beats its parent. A new
element is put at the end and sifted up. When the first element is taken out, the hole that it leaves
is moved down to a leaf, always to the greater child and to the left one of two equivalent children;
the last element is put there and sifted up.

## Main results

* `isHeap_push`, `pop?_spec`: both operations keep the heap.
-/

open Equiv Array Multiset Nat

namespace BinaryHeap

variable {α : Type} (less : α → α → Bool)

def parent (i : Nat) : Nat := (i - 1) / 2

/-- The element at `i` is less than the one at `j`. -/
def lessAt (a : Array α) (i j : Nat) : Bool :=
  match a[i]?, a[j]? with
  | some x, some y => less x y
  | _, _ => false

/-- Swap with the parent as long as the parent is less. -/
def siftUp : Nat → Array α → Nat → Array α
  | 0, a, _ => a
  | fuel + 1, a, i =>
    if 0 < i ∧ lessAt less a (parent i) i then
      siftUp fuel (a.swapIfInBounds i (parent i)) (parent i)
    else a

def greaterChild (a : Array α) (i : Nat) : Nat :=
  if lessAt less a (2 * i + 1) (2 * i + 2) then 2 * i + 2 else 2 * i + 1

/-- Swap with the greater child until there is none; the array and the position. -/
def siftDown : Nat → Array α → Nat → Array α × Nat
  | 0, a, i => (a, i)
  | fuel + 1, a, i =>
    if 2 * i + 1 < a.size then
      siftDown fuel (a.swapIfInBounds i (greaterChild less a i)) (greaterChild less a i)
    else (a, i)

def push (a : Array α) (x : α) : Array α := siftUp less a.size (a.push x) a.size

/-- `top` and `pop`. -/
def pop? (a : Array α) : Option (α × Array α) :=
  match a[0]? with
  | none => none
  | some top =>
    let (b, hole) := siftDown less a.size a 0
    some (top, siftUp less hole (b.swapIfInBounds hole (b.size - 1)).pop hole)

def IsHeap (a : Array α) : Prop := ∀ i, 0 < i → lessAt less a (parent i) i = false

/-- The element at `h` may beat its parent; all others are in order, those below `h` also with what
is above it. -/
structure UpOrder (a : Array α) (h : Nat) : Prop where
  order : ∀ i, 0 < i → i ≠ h → lessAt less a (parent i) i = false
  across : ∀ i, 0 < i → 0 < h → parent i = h → lessAt less a (parent h) i = false

/-- The element at `h` is out of place; all others are in order. -/
structure DownOrder (a : Array α) (h : Nat) : Prop where
  order : ∀ i, 0 < i → i ≠ h → parent i ≠ h → lessAt less a (parent i) i = false
  across : ∀ i, 0 < i → 0 < h → parent i = h → lessAt less a (parent h) i = false

/-! ### Positions -/

lemma parent_lt {i : Nat} (h : 0 < i) : parent i < i := by
  unfold parent
  omega

lemma parent_eq_iff {i h : Nat} (hi : 0 < i) : parent i = h ↔ i = 2 * h + 1 ∨ i = 2 * h + 2 := by
  unfold parent
  omega

lemma getElem?_swapIfInBounds {a : Array α} {i j : Nat} (hi : i < a.size) (hj : j < a.size) (k : Nat) :
    (a.swapIfInBounds i j)[k]? = a[Equiv.swap i j k]? := by
  rw [Array.swapIfInBounds, dif_pos hi, dif_pos hj, Array.getElem?_swap, swap_apply_def]
  by_cases hki : k = i
  · by_cases hkj : k = j
    · simp [← hki, ← hkj]
    · simp [hki, hj, show j ≠ i from fun h => hkj (hki.trans h.symm)]
  · by_cases hkj : k = j
    · simp [hkj, hi, show j ≠ i from fun h => hki (hkj.trans h)]
    · simp [hki, hkj, Ne.symm hki, Ne.symm hkj]

lemma swapIfInBounds_perm (a : Array α) (i j : Nat) : (a.swapIfInBounds i j).Perm a := by
  unfold Array.swapIfInBounds
  split
  · split
    · exact swap_perm _ _
    · exact Array.Perm.refl a
  · exact Array.Perm.refl a

section Order

variable {less} {a : Array α} {i j k h : Nat}

lemma lessAt_swap (hi : i < a.size) (hj : j < a.size) (k l : Nat) :
    lessAt less (a.swapIfInBounds i j) k l =
      lessAt less a (Equiv.swap i j k) (Equiv.swap i j l) := by
  unfold lessAt
  rw [getElem?_swapIfInBounds hi hj, getElem?_swapIfInBounds hi hj]

lemma lessAt_of_size_le (h : a.size ≤ j) (i : Nat) : lessAt less a i j = false := by
  unfold lessAt
  rw [Array.getElem?_eq_none h]
  split <;> simp_all

lemma lessAt_eq_true (h : lessAt less a i j = true) : ∃ x y, a[i]? = some x ∧ a[j]? = some y ∧
    less x y = true := by
  unfold lessAt at h
  split at h
  · rename_i x y hx hy
    exact ⟨x, y, hx, hy, h⟩
  · cases h

end Order

/-! ### The order -/

section Sift

variable {less} (htotal : ∀ x y, less x y = false ∨ less y x = false)
  (htrans : ∀ x y z, less x y = false → less y z = false → less x z = false)
  {a : Array α} {i j k h : Nat}

include htotal in
lemma lessAt_asymm (hless : lessAt less a i j = true) : lessAt less a j i = false := by
  obtain ⟨x, y, hx, hy, hxy⟩ := lessAt_eq_true hless
  simpa [lessAt, hx, hy, hxy] using htotal x y

include htotal in
lemma lessAt_self (i : Nat) : lessAt less a i i = false := by
  rw [← Bool.not_eq_true]
  intro hless
  have := lessAt_asymm htotal hless
  simp [hless] at this

include htrans in
lemma lessAt_trans (hj : j < a.size) (hij : lessAt less a i j = false)
    (hjk : lessAt less a j k = false) : lessAt less a i k = false := by
  unfold lessAt at *
  rw [Array.getElem?_eq_getElem hj] at hij hjk
  cases hi : a[i]? with
  | none => rfl
  | some x =>
    cases hk : a[k]? with
    | none => rfl
    | some z =>
      rw [hi] at hij
      rw [hk] at hjk
      exact htrans _ _ _ hij hjk

include htotal htrans in
lemma UpOrder.swap (ho : UpOrder less a h) (hpos : 0 < h)
    (hless : lessAt less a (parent h) h = true) :
    UpOrder less (a.swapIfInBounds h (parent h)) (parent h) := by
  obtain ⟨x, y, hx, hy, -⟩ := lessAt_eq_true hless
  have hparent := (Array.getElem?_eq_some_iff.mp hx).1
  have hsize := (Array.getElem?_eq_some_iff.mp hy).1
  have hlt := parent_lt hpos
  have hdown := lessAt_asymm htotal hless
  refine ⟨fun i hi hne => ?_, fun i hi hgrand hpi => ?_⟩
  · have hli := parent_lt hi
    rw [lessAt_swap hsize hparent]
    by_cases hih : i = h
    · subst hih
      rw [swap_apply_right, swap_apply_left]
      exact hdown
    rw [swap_apply_of_ne_of_ne hih hne]
    by_cases hp : parent i = parent h
    · rw [hp, swap_apply_right]
      exact lessAt_trans htrans hparent hdown (hp ▸ ho.order i hi hih)
    by_cases hp' : parent i = h
    · rw [hp', swap_apply_left]
      exact ho.across i hi hpos hp'
    · rw [swap_apply_of_ne_of_ne hp' hp]
      exact ho.order i hi hih
  · have hli := parent_lt hi
    have hlg := parent_lt hgrand
    have hup := ho.order (parent h) hgrand (Nat.ne_of_lt hlt)
    rw [lessAt_swap hsize hparent,
      swap_apply_of_ne_of_ne (Nat.ne_of_lt (hlg.trans hlt)) (Nat.ne_of_lt hlg)]
    by_cases hih : i = h
    · subst hih
      rw [swap_apply_left]
      exact hup
    · rw [swap_apply_of_ne_of_ne hih (by omega)]
      exact lessAt_trans htrans hparent hup (hpi ▸ ho.order i hi hih)

include htotal htrans in
/-- **Sifting up** makes a heap.

**Proof sketch.** Induction on the position. Where the loop stops, the element does not beat its
parent, and all others were in order. -/
theorem isHeap_siftUp : ∀ (fuel : Nat) {a : Array α} {h : Nat}, UpOrder less a h → h ≤ fuel →
    IsHeap less (siftUp less fuel a h)
  | 0, a, h, ho, hle => fun i hi => ho.order i hi (by omega)
  | fuel + 1, a, h, ho, hle => by
    rw [siftUp]
    split
    · rename_i hup
      have hlt := parent_lt hup.1
      exact isHeap_siftUp fuel (ho.swap htotal htrans hup.1 hup.2) (by omega)
    · rename_i hstop
      intro i hi
      by_cases hih : i = h
      · subst hih
        exact Bool.eq_false_iff.mpr fun hless => hstop ⟨hi, hless⟩
      · exact ho.order i hi hih

variable (less) in
lemma greaterChild_spec (hchild : 2 * h + 1 < a.size) :
    parent (greaterChild less a h) = h ∧ h < greaterChild less a h ∧
      greaterChild less a h < a.size := by
  unfold greaterChild
  split
  · rename_i hless
    obtain ⟨x, y, -, hy, -⟩ := lessAt_eq_true hless
    have := (Array.getElem?_eq_some_iff.mp hy).1
    refine ⟨?_, by omega, this⟩
    unfold parent
    omega
  · refine ⟨?_, by omega, hchild⟩
    unfold parent
    omega

include htotal in
lemma greaterChild_greatest (hi : 0 < i) (hp : parent i = h) :
    lessAt less a (greaterChild less a h) i = false := by
  unfold greaterChild
  split
  · rename_i hless
    rcases (parent_eq_iff hi).mp hp with rfl | rfl
    · exact lessAt_asymm htotal hless
    · exact lessAt_self htotal _
  · rename_i hless
    rcases (parent_eq_iff hi).mp hp with rfl | rfl
    · exact lessAt_self htotal _
    · exact Bool.eq_false_iff.mpr hless

include htotal in
lemma DownOrder.swap (ho : DownOrder less a h) (hchild : 2 * h + 1 < a.size) :
    DownOrder less (a.swapIfInBounds h (greaterChild less a h)) (greaterChild less a h) := by
  obtain ⟨hparent, hlt, hsize⟩ := greaterChild_spec less hchild
  have hgreatest : ∀ i, 0 < i → parent i = h → lessAt less a (greaterChild less a h) i = false :=
    fun i hi hp => greaterChild_greatest htotal hi hp
  generalize greaterChild less a h = c at *
  have hh : h < a.size := hlt.trans hsize
  refine ⟨fun i hi hne hpc => ?_, fun i hi _ hpi => ?_⟩
  · have hli := parent_lt hi
    rw [lessAt_swap hh hsize]
    by_cases hih : i = h
    · subst hih
      rw [swap_apply_left, swap_apply_of_ne_of_ne (Nat.ne_of_lt hli) hpc]
      exact ho.across c (by omega) hi hparent
    rw [swap_apply_of_ne_of_ne hih hne]
    by_cases hp : parent i = h
    · rw [hp, swap_apply_left]
      exact hgreatest i hi hp
    · rw [swap_apply_of_ne_of_ne hp hpc]
      exact ho.order i hi hih hp
  · have hli := parent_lt hi
    rw [lessAt_swap hh hsize, hparent, swap_apply_left,
      swap_apply_of_ne_of_ne (by omega) (by omega)]
    have := ho.order i hi (by omega) (by omega)
    rwa [hpi] at this

include htotal in
/-- **Moving the hole down** ends at a leaf, with what was in the hole.

**Proof sketch.** Induction on the iterations; the position grows in each of them. -/
theorem downOrder_siftDown : ∀ (fuel : Nat) {a : Array α} {h : Nat}, DownOrder less a h →
    h < a.size → a.size ≤ h + fuel → ∃ b hole, siftDown less fuel a h = (b, hole) ∧
      DownOrder less b hole ∧ b.Perm a ∧ hole < b.size ∧ b.size ≤ 2 * hole + 1 ∧ b[hole]? = a[h]?
  | 0, a, h, _, hlt, hle => absurd hlt (by omega)
  | fuel + 1, a, h, ho, hlt, hle => by
    rw [siftDown]
    split
    · rename_i hchild
      obtain ⟨-, hgt, hsize⟩ := greaterChild_spec less hchild
      have hswap := ho.swap htotal hchild
      generalize greaterChild less a h = c at *
      have hsame : (a.swapIfInBounds h c).size = a.size := size_swapIfInBounds
      obtain ⟨b, hole, heq, hdown, hperm, hin, hleaf, hvalue⟩ :=
        downOrder_siftDown fuel hswap (by omega) (by omega)
      refine ⟨b, hole, heq, hdown, hperm.trans (swapIfInBounds_perm a h c), hin, hleaf, ?_⟩
      rw [hvalue, getElem?_swapIfInBounds hlt hsize, swap_apply_right]
    · rename_i hleaf
      exact ⟨a, h, rfl, ho, Array.Perm.refl a, hlt, by omega, rfl⟩

/-! ### The operations -/

lemma siftUp_perm : ∀ (fuel : Nat) (a : Array α) (h : Nat), (siftUp less fuel a h).Perm a
  | 0, a, h => Array.Perm.refl a
  | fuel + 1, a, h => by
    rw [siftUp]
    split
    · exact (siftUp_perm fuel _ _).trans (swapIfInBounds_perm a _ _)
    · exact Array.Perm.refl a

lemma coe_eq_of_perm {b : Array α} (h : b.Perm a) : (b.toList : Multiset α) = a.toList :=
  coe_eq_coe.mpr h.toList

include htotal htrans in
lemma isHeap_push (ho : IsHeap less a) (x : α) : IsHeap less (push less a x) := by
  refine isHeap_siftUp htotal htrans _ ⟨fun i hi hne => ?_, fun i hi hpos hp => ?_⟩ (le_refl _)
  · by_cases hlt : i < a.size
    · have hli := parent_lt hi
      have := ho i hi
      unfold lessAt at this ⊢
      rw [Array.getElem?_push, Array.getElem?_push, if_neg (by omega), if_neg (by omega)]
      exact this
    · exact lessAt_of_size_le (by rw [size_push]; omega) _
  · have := (parent_eq_iff hi).mp hp
    exact lessAt_of_size_le (by rw [size_push]; omega) _

lemma IsHeap.top (htotal : ∀ x y, less x y = false ∨ less y x = false)
    (htrans : ∀ x y z, less x y = false → less y z = false → less x z = false)
    (ho : IsHeap less a) (i : Nat) : lessAt less a 0 i = false := by
  induction i using Nat.strongRecOn with
  | ind i ih =>
    rcases Nat.eq_zero_or_pos i with rfl | hi
    · exact lessAt_self htotal 0
    by_cases hlt : i < a.size
    · have hli := parent_lt hi
      exact lessAt_trans htrans (by omega) (ih (parent i) hli) (ho i hi)
    · exact lessAt_of_size_le (not_lt.mp hlt) 0

include htotal htrans in
theorem pop?_spec (ho : IsHeap less a) {top : α} {rest : Array α}
    (h : pop? less a = some (top, rest)) :
    a[0]? = some top ∧ IsHeap less rest ∧ (a.toList : Multiset α) = top ::ₘ rest.toList := by
  unfold pop? at h
  split at h
  · cases h
  rename_i x hx
  have hpos := (Array.getElem?_eq_some_iff.mp hx).1
  have hdown : DownOrder less a 0 := ⟨fun i hi _ _ => ho i hi, fun i _ hlt => absurd hlt (by omega)⟩
  obtain ⟨b, hole, hsift, hb, hperm, hin, hleaf, hvalue⟩ :=
    downOrder_siftDown htotal a.size hdown hpos (by omega)
  rw [hsift] at h
  obtain ⟨rfl, rfl⟩ := Prod.mk.inj (Option.some.inj h)
  have hlast : b.size - 1 < b.size := by omega
  generalize hc : b.swapIfInBounds hole (b.size - 1) = d
  have hget := getElem?_swapIfInBounds (a := b) hin hlast
  rw [hc] at hget
  have hsize : d.size = b.size := by rw [← hc, size_swapIfInBounds]
  -- apart from the hole, what is left is where it was
  have hkept : ∀ k, k ≠ hole → d.pop[k]? = none ∨ d.pop[k]? = b[k]? := by
    intro k hk
    rw [Array.getElem?_pop, hsize, hget]
    split
    · exact .inr (by rw [swap_apply_of_ne_of_ne hk (by omega)])
    · exact .inl rfl
  refine ⟨hx, isHeap_siftUp htotal htrans hole ⟨fun i hi hne => ?_, fun i hi _ hp => ?_⟩
    (le_refl _), ?_⟩
  · by_cases hp : parent i = hole
    · have := (parent_eq_iff hi).mp hp
      exact lessAt_of_size_le (by rw [size_pop]; omega) _
    · have horder := hb.order i hi hne hp
      unfold lessAt at horder ⊢
      rcases hkept i hne with hnone | hsame
      · rw [hnone]
        split <;> simp_all
      rcases hkept _ hp with hnone' | hsame'
      · rw [hnone']
      · rw [hsame, hsame']
        exact horder
  · have := (parent_eq_iff hi).mp hp
    exact lessAt_of_size_le (by rw [size_pop]; omega) _
  · have htop : d[b.size - 1]? = some x := by
      rw [hget, swap_apply_right, hvalue, hx]
    have hback : d.pop.push x = d := by
      refine ext_getElem? fun k => ?_
      rw [Array.getElem?_push, size_pop, Array.getElem?_pop, hsize]
      split
      · rename_i hk
        rw [hk, htop]
      · rename_i hk
        split
        · rfl
        · exact (Array.getElem?_eq_none (by omega)).symm
    have hcperm : d.Perm a := by
      rw [← hc]
      exact (swapIfInBounds_perm b _ _).trans hperm
    have hsifted : (siftUp less hole d.pop hole).Perm d.pop := siftUp_perm _ _ _
    calc (a.toList : Multiset α) = d.toList := (coe_eq_of_perm hcperm).symm
      _ = (d.pop.push x).toList := by rw [hback]
      _ = x ::ₘ d.pop.toList := by
        rw [toList_push]
        exact coe_eq_coe.mpr (List.perm_append_singleton x d.pop.toList)
      _ = x ::ₘ (siftUp less hole d.pop hole).toList := by rw [coe_eq_of_perm hsifted]

end Sift

end BinaryHeap

/-- **Binary heaps** are a priority queue if `less` is a strict weak order. -/
def PriorityQueue.ofHeap {α : Type} {less : α → α → Bool}
    (htotal : ∀ x y, less x y = false ∨ less y x = false)
    (htrans : ∀ x y z, less x y = false → less y z = false → less x z = false) :
    PriorityQueue less { a : Array α // BinaryHeap.IsHeap less a } where
  empty := ⟨#[], fun i _ => BinaryHeap.lessAt_of_size_le (Nat.zero_le i) _⟩
  push q x := ⟨BinaryHeap.push less q.1 x, BinaryHeap.isHeap_push htotal htrans q.2 x⟩
  pop? q :=
    match h : BinaryHeap.pop? less q.1 with
    | none => none
    | some (top, rest) => some (top, ⟨rest, (BinaryHeap.pop?_spec htotal htrans q.2 h).2.1⟩)
  elems q := q.1.toList
  elems_empty := rfl
  elems_push q x := by
    have hsifted : (BinaryHeap.push less q.1 x).Perm (q.1.push x) := BinaryHeap.siftUp_perm _ _ _
    refine (BinaryHeap.coe_eq_of_perm hsifted).trans ?_
    rw [toList_push]
    exact coe_eq_coe.mpr (List.perm_append_singleton x q.1.toList)
  elems_of_pop?_none q h := by
    split at h
    · rename_i hnone
      unfold BinaryHeap.pop? at hnone
      split at hnone
      · rename_i hfirst
        have hsize := Array.getElem?_eq_none_iff.mp hfirst
        rw [eq_empty_of_size_eq_zero (le_zero.mp hsize)]
        rfl
      · cases hnone
    · cases h
  elems_of_pop?_some q top rest h := by
    split at h
    · cases h
    · rename_i x b hsome
      cases h
      exact (BinaryHeap.pop?_spec htotal htrans q.2 hsome).2.2
  top_not_less q top rest h y hy := by
    split at h
    · cases h
    · rename_i x b hsome
      cases h
      obtain ⟨hfirst, -, helems⟩ := BinaryHeap.pop?_spec htotal htrans q.2 hsome
      have hmem : y ∈ q.1.toList := by
        refine mem_coe.mp ?_
        rw [helems]
        exact mem_cons_of_mem hy
      obtain ⟨i, hi⟩ := Array.getElem?_of_mem (mem_toList_iff.mp hmem)
      simpa [BinaryHeap.lessAt, hfirst, hi] using q.2.top htotal htrans i
