import Mathlib.Data.List.Sort
import Mathlib.Data.Multiset.AddSub

/-!
# Priority queues

A priority queue holds a multiset of elements. The element that is taken out next is one that no
other element beats; which of several such elements this is, is left to the implementation. What
is proved about a program with such a queue holds for every implementation.

## Main definitions

* `PriorityQueue`: what is known of an implementation.
-/

/-- The operations of a priority queue for a comparison `less`. The elements are a multiset; `pop?`
takes out one that is not less than any other. -/
structure PriorityQueue {α : Type} (less : α → α → Bool) (Q : Type) where
  empty : Q
  push : Q → α → Q
  pop? : Q → Option (α × Q)
  elems : Q → Multiset α
  elems_empty : elems empty = 0
  elems_push : ∀ q a, elems (push q a) = a ::ₘ elems q
  elems_of_pop?_none : ∀ q, pop? q = none → elems q = 0
  elems_of_pop?_some : ∀ q a q', pop? q = some (a, q') → elems q = a ::ₘ elems q'
  top_not_less : ∀ q a q', pop? q = some (a, q') → ∀ b ∈ elems q', less a b = false

namespace PriorityQueue

open List Multiset

variable {α Q : Type} {less : α → α → Bool} (pq : PriorityQueue less Q)

def size (q : Q) : Nat := (pq.elems q).card

def pushAll (q : Q) (l : List α) : Q := l.foldl pq.push q

lemma elems_pushAll : ∀ (l : List α) (q : Q), pq.elems (pq.pushAll q l) = (l : Multiset α) + pq.elems q
  | [], q => (Multiset.zero_add _).symm
  | a :: l, q => by
    show pq.elems (pq.pushAll (pq.push q a) l) = _
    rw [elems_pushAll l, pq.elems_push, ← cons_coe, add_cons, cons_add]

lemma size_of_pop? {q q' : Q} {a : α} (h : pq.pop? q = some (a, q')) :
    pq.size q = pq.size q' + 1 := by
  unfold size
  rw [pq.elems_of_pop?_some q a q' h, card_cons]

/-- **Sorted lists** are a priority queue if `less` is a strict weak order. A new element comes in
front of those that are equivalent to it. -/
def ofSorted (htotal : ∀ a b, less a b = false ∨ less b a = false)
    (htrans : ∀ a b c, less a b = false → less b c = false → less a c = false) :
    PriorityQueue less { l : List α // l.Pairwise fun a b => less a b = false } where
  empty := ⟨[], List.Pairwise.nil⟩
  push q a := ⟨q.1.orderedInsert (fun x y => less x y = false) a,
    have : Std.Total fun x y => less x y = false := ⟨htotal⟩
    have : IsTrans α fun x y => less x y = false := ⟨htrans⟩
    q.2.orderedInsert a q.1⟩
  pop?
    | ⟨[], _⟩ => none
    | ⟨a :: l, h⟩ => some (a, ⟨l, (pairwise_cons.mp h).2⟩)
  elems q := q.1
  elems_empty := rfl
  elems_push q a := coe_eq_coe.mpr (perm_orderedInsert _ a q.1)
  elems_of_pop?_none
    | ⟨[], _⟩, _ => rfl
  elems_of_pop?_some
    | ⟨a :: l, _⟩, _, _, h => by
      cases h
      rfl
  top_not_less
    | ⟨a :: l, hsorted⟩, _, _, h => by
      cases h
      exact fun b hb => (pairwise_cons.mp hsorted).1 b hb

end PriorityQueue
