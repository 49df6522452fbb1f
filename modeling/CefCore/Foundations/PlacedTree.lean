import Mathlib.Data.List.Perm.Basic
import Mathlib.Data.List.Nodup
import Mathlib.Logic.Relation

/-!
# Trees that are placed in memory

A tree of containers, as it lies in memory: a node does not know where it is stored; its container
decides, from its own label, from the position in it and from the label of the child. So when a
container moves its children, their addresses change, and the nodes do not.

Everything about such a tree that matters to pointers into it is in the list of its `entries`: for
each node its parent's address, its own and its label.

## Main definitions

* `PlacedTree.entries`, `PlacedTree.find`, `PlacedTree.modify`: nodes and their places.
-/

/-- A tree with labels in `α`. -/
inductive PlacedTree.{u} (α : Type u) where
  | node (label : α) (children : List (PlacedTree α))

namespace PlacedTree

open List Option

universe u

variable {α β : Type u}

def label : PlacedTree α → α
  | node a _ => a

def children : PlacedTree α → List (PlacedTree α)
  | node _ ts => ts

@[simp] lemma label_node (a : α) (ts : List (PlacedTree α)) : (node a ts).label = a := rfl

@[simp] lemma children_node (a : α) (ts : List (PlacedTree α)) : (node a ts).children = ts := rfl

mutual

def labels : PlacedTree α → List α
  | node a ts => a :: labelsIn ts

def labelsIn : List (PlacedTree α) → List α
  | [] => []
  | t :: ts => t.labels ++ labelsIn ts

end

lemma labels_eq (t : PlacedTree α) : t.labels = t.label :: labelsIn t.children := by
  cases t with
  | node a ts => rfl

lemma labelsIn_eq_flatMap : ∀ ts : List (PlacedTree α), labelsIn ts = ts.flatMap labels
  | [] => rfl
  | t :: ts => congrArg (t.labels ++ ·) (labelsIn_eq_flatMap ts)

/-- A node: the address of its parent, its own address, and its label. -/
structure Entry (α β : Type u) where
  parent : Option β
  addr : β
  label : α

/-- `p` is the parent of `c`. -/
def Edge (l : List (Entry α β)) (p c : β) : Prop := ∃ e ∈ l, e.parent = some p ∧ e.addr = c

section Entries

variable (slot : α → Nat → α → β)

mutual

def entries (parent : Option β) (here : β) : PlacedTree α → List (Entry α β)
  | node a ts => ⟨parent, here, a⟩ :: entriesIn (some here) a 0 ts

def entriesIn (parent : Option β) (a : α) (i : Nat) : List (PlacedTree α) → List (Entry α β)
  | [] => []
  | t :: ts => t.entries parent (slot a i t.label) ++ entriesIn parent a (i + 1) ts

end

lemma entries_node (parent : Option β) (here : β) (a : α) (ts : List (PlacedTree α)) :
    (node a ts).entries slot parent here =
      ⟨parent, here, a⟩ :: entriesIn slot (some here) a 0 ts := rfl

lemma entriesIn_cons (parent : Option β) (a : α) (i : Nat) (t : PlacedTree α)
    (ts : List (PlacedTree α)) : entriesIn slot parent a i (t :: ts) =
      t.entries slot parent (slot a i t.label) ++ entriesIn slot parent a (i + 1) ts := rfl

lemma entries_eq (parent : Option β) (here : β) (t : PlacedTree α) :
    t.entries slot parent here =
      ⟨parent, here, t.label⟩ :: entriesIn slot (some here) t.label 0 t.children := by
  cases t with
  | node a ts => rfl

lemma mem_entriesIn (parent : Option β) (a : α) {e : Entry α β} :
    ∀ {i : Nat} {ts : List (PlacedTree α)}, e ∈ entriesIn slot parent a i ts ↔
      ∃ (j : Nat) (t : PlacedTree α), ts[j]? = some t ∧
        e ∈ t.entries slot parent (slot a (i + j) t.label)
  | i, [] => ⟨fun he => (nomatch he), fun ⟨_, _, ht, _⟩ => (nomatch ht)⟩
  | i, t :: ts => by
    rw [entriesIn_cons, mem_append, mem_entriesIn parent a]
    constructor
    · rintro (he | ⟨j, u, hu, he⟩)
      · exact ⟨0, t, rfl, he⟩
      · refine ⟨j + 1, u, hu, ?_⟩
        rw [← Nat.add_assoc, Nat.add_right_comm]
        exact he
    · rintro ⟨j, u, hu, he⟩
      cases j with
      | zero =>
        cases hu
        exact .inl he
      | succ j =>
        refine .inr ⟨j, u, hu, ?_⟩
        rw [Nat.add_right_comm, Nat.add_assoc]
        exact he

lemma entries_sublist_entriesIn (parent : Option β) (a : α) {t : PlacedTree α} :
    ∀ {i k : Nat} {ts : List (PlacedTree α)}, ts[i]? = some t →
      (t.entries slot parent (slot a (k + i) t.label)).Sublist (entriesIn slot parent a k ts)
  | i, k, [], h => by simp at h
  | 0, k, u :: ts, h => by
    cases h
    exact sublist_append_left _ _
  | i + 1, k, u :: ts, h => by
    have ih := entries_sublist_entriesIn parent a (i := i) (k := k + 1) h
    rw [Nat.add_right_comm, Nat.add_assoc] at ih
    exact ih.trans (sublist_append_right _ _)

mutual

lemma parent_mem (parent : Option β) (here : β) : ∀ t : PlacedTree α,
    ∀ e ∈ t.entries slot parent here, e.parent = parent ∨
      ∃ e' ∈ t.entries slot parent here, e.parent = some e'.addr
  | node a ts => by
    intro e he
    rcases mem_cons.mp he with rfl | he
    · exact .inl rfl
    · rcases parent_memIn (some here) a 0 ts e he with hp | ⟨e', he', hp⟩
      · exact .inr ⟨⟨parent, here, a⟩, mem_cons_self, hp⟩
      · exact .inr ⟨e', mem_cons_of_mem _ he', hp⟩

lemma parent_memIn (parent : Option β) (a : α) : ∀ (i : Nat) (ts : List (PlacedTree α)),
    ∀ e ∈ entriesIn slot parent a i ts, e.parent = parent ∨
      ∃ e' ∈ entriesIn slot parent a i ts, e.parent = some e'.addr
  | i, [] => fun _ he => nomatch he
  | i, t :: ts => by
    intro e he
    rcases mem_append.mp he with he | he
    · rcases parent_mem parent _ t e he with hp | ⟨e', he', hp⟩
      · exact .inl hp
      · exact .inr ⟨e', mem_append_left _ he', hp⟩
    · rcases parent_memIn parent a (i + 1) ts e he with hp | ⟨e', he', hp⟩
      · exact .inl hp
      · exact .inr ⟨e', mem_append_right _ he', hp⟩

end

mutual

lemma map_label_entries (parent : Option β) (here : β) : ∀ t : PlacedTree α,
    (t.entries slot parent here).map (·.label) = t.labels
  | node a ts => congrArg (a :: ·) (map_label_entriesIn (some here) a 0 ts)

lemma map_label_entriesIn (parent : Option β) (a : α) : ∀ (i : Nat) (ts : List (PlacedTree α)),
    (entriesIn slot parent a i ts).map (·.label) = labelsIn ts
  | i, [] => rfl
  | i, t :: ts => by
    rw [entriesIn_cons, map_append, map_label_entries parent _ t,
      map_label_entriesIn parent a (i + 1) ts]
    rfl

end

/-! ### The part of a tree below its root -/

mutual

/-- Every node of a tree is its root or below it. -/
theorem transGen_edge (parent : Option β) (here : β) : ∀ (t : PlacedTree α),
    ∀ e ∈ t.entries slot parent here,
      e = ⟨parent, here, t.label⟩ ∨ Relation.TransGen (Edge (t.entries slot parent here)) here e.addr
  | node a ts => by
    intro e he
    rcases mem_cons.mp he with rfl | he
    · exact .inl rfl
    · exact .inr (transGen_edgeIn here a 0 ts (Edge ((node a ts).entries slot parent here))
        (fun p c ⟨e, he, h⟩ => ⟨e, mem_cons_of_mem _ he, h⟩) e he)

/-- Every node in a container is below it, in any larger list of entries. -/
theorem transGen_edgeIn (here : β) (a : α) : ∀ (i : Nat) (ts : List (PlacedTree α))
    (r : β → β → Prop), (∀ p c, Edge (entriesIn slot (some here) a i ts) p c → r p c) →
    ∀ e ∈ entriesIn slot (some here) a i ts, Relation.TransGen r here e.addr
  | _, [] => fun _ _ _ he => nomatch he
  | i, t :: ts => by
    intro r hr e he
    have hfirst : r here (slot a i t.label) := by
      refine hr _ _ ⟨⟨some here, slot a i t.label, t.label⟩, ?_, rfl, rfl⟩
      rw [entriesIn_cons, entries_eq]
      exact mem_cons_self
    rcases mem_append.mp he with he | he
    · rcases transGen_edge (some here) (slot a i t.label) t e he with rfl | hbelow
      · exact Relation.TransGen.single hfirst
      · have hsub : Edge (t.entries slot (some here) (slot a i t.label)) ≤ r := by
          rintro p c ⟨e, he, h⟩
          exact hr p c ⟨e, mem_append_left _ he, h⟩
        exact Relation.TransGen.head hfirst (Relation.TransGen.mono hsub _ _ hbelow)
    · refine transGen_edgeIn here a (i + 1) ts r (fun p c ⟨e, he, h⟩ => hr p c ⟨e, ?_, h⟩) e he
      exact mem_append_right _ he

end

end Entries

/-! ### Finding and changing a subtree -/

section Find

variable [DecidableEq β] (slot : α → Nat → α → β) (x : β)

mutual

/-- The subtree at the address `x`. -/
def find (here : β) : PlacedTree α → Option (PlacedTree α)
  | node a ts => if here = x then some (node a ts) else findIn a 0 ts
termination_by structural t => t

/-- The subtree at the address `x` in a container. -/
def findIn (a : α) (i : Nat) : List (PlacedTree α) → Option (PlacedTree α)
  | [] => none
  | t :: ts => (t.find (slot a i t.label)).or (findIn a (i + 1) ts)
termination_by structural ts => ts

end

mutual

/-- Change the subtree at the address `x`. -/
def modify (f : PlacedTree α → PlacedTree α) (here : β) : PlacedTree α → PlacedTree α
  | node a ts => if here = x then f (node a ts) else node a (modifyIn f a 0 ts)
termination_by structural t => t

/-- Change the subtree at the address `x` in a container. -/
def modifyIn (f : PlacedTree α → PlacedTree α) (a : α) (i : Nat) :
    List (PlacedTree α) → List (PlacedTree α)
  | [] => []
  | t :: ts =>
    if (t.find slot x (slot a i t.label)).isSome then t.modify f (slot a i t.label) :: ts
    else t :: modifyIn f a (i + 1) ts
termination_by structural ts => ts

end

variable {x} {f g : PlacedTree α → PlacedTree α}

section Equations

variable {here : β} {a : α} {i : Nat} {s t : PlacedTree α} {ts : List (PlacedTree α)}

lemma find_node : (node a ts).find slot x here =
    if here = x then some (node a ts) else findIn slot x a 0 ts := rfl

lemma findIn_cons : findIn slot x a i (t :: ts) =
    (t.find slot x (slot a i t.label)).or (findIn slot x a (i + 1) ts) := rfl

lemma modify_node : (node a ts).modify slot x f here =
    if here = x then f (node a ts) else node a (modifyIn slot x f a 0 ts) := rfl

lemma modifyIn_cons : modifyIn slot x f a i (t :: ts) =
    if (t.find slot x (slot a i t.label)).isSome then t.modify slot x f (slot a i t.label) :: ts
    else t :: modifyIn slot x f a (i + 1) ts := rfl

lemma find_here (h : t.find slot x here = some s) (hx : here = x) : s = t := by
  cases t with
  | node a ts =>
    rw [find_node, if_pos hx] at h
    exact (some.inj h).symm

lemma find_self (t : PlacedTree α) : t.find slot x x = some t := by
  cases t with
  | node a ts => rw [find_node, if_pos rfl]

lemma find_of_ne (hx : here ≠ x) : t.find slot x here = findIn slot x t.label 0 t.children := by
  cases t with
  | node a ts => rw [find_node, if_neg hx, label_node, children_node]

lemma modify_self : t.modify slot x f x = f t := by
  cases t with
  | node a ts => rw [modify_node, if_pos rfl]

lemma modify_of_ne (hx : here ≠ x) :
    t.modify slot x f here = node t.label (modifyIn slot x f t.label 0 t.children) := by
  cases t with
  | node a ts => rw [modify_node, if_neg hx, label_node, children_node]

lemma findIn_cons_of_find (h : t.find slot x (slot a i t.label) = some s) :
    findIn slot x a i (t :: ts) = some s := by
  rw [findIn_cons, h, some_or]

lemma findIn_cons_of_none (h : t.find slot x (slot a i t.label) = none) :
    findIn slot x a i (t :: ts) = findIn slot x a (i + 1) ts := by
  rw [findIn_cons, h, none_or]

lemma modifyIn_cons_of_find (h : t.find slot x (slot a i t.label) = some s) :
    modifyIn slot x f a i (t :: ts) = t.modify slot x f (slot a i t.label) :: ts := by
  rw [modifyIn_cons, h, isSome_some, if_pos rfl]

lemma modifyIn_cons_of_none (h : t.find slot x (slot a i t.label) = none) :
    modifyIn slot x f a i (t :: ts) = t :: modifyIn slot x f a (i + 1) ts := by
  rw [modifyIn_cons, h, isSome_none, if_neg Bool.false_ne_true]

lemma slot_modify (h : t.find slot x here = some s)
    (hf : ∀ a i, slot a i (f s).label = slot a i s.label) (a : α) (i : Nat) :
    slot a i (t.modify slot x f here).label = slot a i t.label := by
  by_cases hx : here = x
  · obtain rfl := find_here slot h hx
    subst hx
    rw [modify_self]
    exact hf a i
  · rw [modify_of_ne slot hx, label_node]

end Equations

mutual

lemma find_eq_none_iff (parent : Option β) (here : β) : ∀ t : PlacedTree α,
    t.find slot x here = none ↔ ∀ e ∈ t.entries slot parent here, e.addr ≠ x
  | node a ts => by
    rw [find_node, entries_node, forall_mem_cons, ← findIn_eq_none_iff (some here) a 0 ts]
    split
    · rename_i h
      simp [h]
    · rename_i h
      simp [h]

lemma findIn_eq_none_iff (parent : Option β) (a : α) : ∀ (i : Nat) (ts : List (PlacedTree α)),
    findIn slot x a i ts = none ↔ ∀ e ∈ entriesIn slot parent a i ts, e.addr ≠ x
  | i, [] => ⟨fun _ _ he => (nomatch he), fun _ => rfl⟩
  | i, t :: ts => by
    rw [findIn_cons, entriesIn_cons, or_eq_none_iff, find_eq_none_iff parent _ t,
      findIn_eq_none_iff parent a (i + 1) ts,
      forall_mem_append]

end

mutual

lemma find_modify {s : PlacedTree α} (hf : ∀ a i, slot a i (f s).label = slot a i s.label) (here : β) :
    ∀ t : PlacedTree α, t.find slot x here = some s →
      (t.modify slot x f here).find slot x here = some (f s)
  | node a ts => by
    intro h
    by_cases hx : here = x
    · obtain rfl := find_here slot h hx
      subst hx
      rw [modify_self, find_self]
    · rw [find_of_ne slot hx] at h
      rw [modify_of_ne slot hx, find_of_ne slot hx]
      exact findIn_modifyIn hf a 0 ts h

lemma findIn_modifyIn {s : PlacedTree α} (hf : ∀ a i, slot a i (f s).label = slot a i s.label) (a : α) :
    ∀ (i : Nat) (ts : List (PlacedTree α)), findIn slot x a i ts = some s →
      findIn slot x a i (modifyIn slot x f a i ts) = some (f s)
  | i, [] => fun h => nomatch h
  | i, t :: ts => by
    intro h
    cases hfind : t.find slot x (slot a i t.label) with
    | some s' =>
      rw [findIn_cons_of_find slot hfind, some.injEq] at h
      subst h
      rw [modifyIn_cons_of_find slot hfind]
      refine findIn_cons_of_find slot ?_
      rw [slot_modify slot hfind hf]
      exact find_modify hf _ t hfind
    | none =>
      rw [findIn_cons_of_none slot hfind] at h
      rw [modifyIn_cons_of_none slot hfind, findIn_cons_of_none slot hfind]
      exact findIn_modifyIn hf a (i + 1) ts h

end

mutual

lemma modify_modify {s : PlacedTree α} (hf : ∀ a i, slot a i (f s).label = slot a i s.label)
    (here : β) :
    ∀ t : PlacedTree α, t.find slot x here = some s →
      (t.modify slot x f here).modify slot x g here = t.modify slot x (g ∘ f) here
  | node a ts => by
    intro h
    by_cases hx : here = x
    · subst hx
      rw [modify_self, modify_self, modify_self, Function.comp]
    · rw [find_of_ne slot hx] at h
      rw [modify_of_ne slot hx, modify_of_ne slot hx, modify_of_ne slot hx]
      exact congrArg (node a) (modifyIn_modifyIn hf a 0 ts h)

lemma modifyIn_modifyIn {s : PlacedTree α} (hf : ∀ a i, slot a i (f s).label = slot a i s.label)
    (a : α) :
    ∀ (i : Nat) (ts : List (PlacedTree α)), findIn slot x a i ts = some s →
      modifyIn slot x g a i (modifyIn slot x f a i ts) = modifyIn slot x (g ∘ f) a i ts
  | i, [] => fun h => nomatch h
  | i, t :: ts => by
    intro h
    cases hfind : t.find slot x (slot a i t.label) with
    | some s' =>
      rw [findIn_cons_of_find slot hfind, some.injEq] at h
      subst h
      have hslot := slot_modify slot hfind hf a i
      have hagain : (t.modify slot x f (slot a i t.label)).find slot x
          (slot a i (t.modify slot x f (slot a i t.label)).label) = some (f s') := by
        rw [hslot]
        exact find_modify slot hf _ t hfind
      rw [modifyIn_cons_of_find slot hfind, modifyIn_cons_of_find slot hfind,
        modifyIn_cons_of_find slot hagain, hslot, modify_modify hf _ t hfind]
    | none =>
      rw [findIn_cons_of_none slot hfind] at h
      rw [modifyIn_cons_of_none slot hfind, modifyIn_cons_of_none slot hfind,
        modifyIn_cons_of_none slot hfind, modifyIn_modifyIn hf a (i + 1) ts h]

end

mutual

/-- **The context of a subtree**: the entries of a tree are those of the subtree at `x` and some
others, and a change of the subtree keeps the others.

**Proof sketch.** Induction on the tree, along the way to the subtree. -/
theorem exists_context (parent : Option β) (here : β) : ∀ t : PlacedTree α,
    ∀ s, t.find slot x here = some s →
    ∃ q ctx, (t.entries slot parent here).Perm (s.entries slot q x ++ ctx) ∧
      ∀ f : PlacedTree α → PlacedTree α, (∀ a i, slot a i (f s).label = slot a i s.label) →
        ((t.modify slot x f here).entries slot parent here).Perm ((f s).entries slot q x ++ ctx)
  | node a ts => by
    intro s h
    by_cases hx : here = x
    · obtain rfl := find_here slot h hx
      subst hx
      refine ⟨parent, [], by simp, fun f _ => ?_⟩
      rw [modify_self, append_nil]
    · rw [find_of_ne slot hx] at h
      obtain ⟨q, ctx, hperm, hmodify⟩ := exists_contextIn (some here) a 0 ts s h
      refine ⟨q, ⟨parent, here, a⟩ :: ctx, ?_, fun f hf => ?_⟩
      · rw [entries_node]
        exact (hperm.cons _).trans perm_middle.symm
      · rw [modify_of_ne slot hx, entries_node]
        exact ((hmodify f hf).cons _).trans perm_middle.symm

theorem exists_contextIn (parent : Option β) (a : α) : ∀ (i : Nat) (ts : List (PlacedTree α)),
    ∀ s, findIn slot x a i ts = some s →
    ∃ q ctx, (entriesIn slot parent a i ts).Perm (s.entries slot q x ++ ctx) ∧
      ∀ f : PlacedTree α → PlacedTree α, (∀ a i, slot a i (f s).label = slot a i s.label) →
        (entriesIn slot parent a i (modifyIn slot x f a i ts)).Perm ((f s).entries slot q x ++ ctx)
  | i, [] => fun _ h => nomatch h
  | i, t :: ts => by
    intro s h
    cases hfind : t.find slot x (slot a i t.label) with
    | some s' =>
      rw [findIn_cons_of_find slot hfind, some.injEq] at h
      subst h
      obtain ⟨q, ctx, hperm, hmodify⟩ := exists_context parent _ t s' hfind
      refine ⟨q, ctx ++ entriesIn slot parent a (i + 1) ts, ?_, fun f hf => ?_⟩
      · rw [entriesIn_cons, ← append_assoc]
        exact hperm.append_right _
      · rw [modifyIn_cons_of_find slot hfind, entriesIn_cons, slot_modify slot hfind hf,
          ← append_assoc]
        exact (hmodify f hf).append_right _
    | none =>
      rw [findIn_cons_of_none slot hfind] at h
      obtain ⟨q, ctx, hperm, hmodify⟩ := exists_contextIn parent a (i + 1) ts s h
      refine ⟨q, t.entries slot parent (slot a i t.label) ++ ctx, ?_, fun f hf => ?_⟩
      · rw [entriesIn_cons]
        refine (hperm.append_left _).trans ?_
        rw [← append_assoc, ← append_assoc]
        exact perm_append_comm.append_right _
      · rw [modifyIn_cons_of_none slot hfind, entriesIn_cons]
        refine ((hmodify f hf).append_left _).trans ?_
        rw [← append_assoc, ← append_assoc]
        exact perm_append_comm.append_right _

end

lemma exists_entryIn (parent : Option β) {a : α} {i : Nat} {ts : List (PlacedTree α)}
    {s : PlacedTree α} (h : findIn slot x a i ts = some s) :
    ∃ e ∈ entriesIn slot parent a i ts, e.addr = x := by
  have hsome : findIn slot x a i ts ≠ none := by simp [h]
  rw [Ne, findIn_eq_none_iff slot parent] at hsome
  push Not at hsome
  exact hsome

lemma findIn_cons_of_findIn (parent : Option β) {a : α} {i : Nat} {t s : PlacedTree α}
    {ts : List (PlacedTree α)} (hnodup : ((entriesIn slot parent a i (t :: ts)).map (·.addr)).Nodup)
    (h : findIn slot x a (i + 1) ts = some s) : findIn slot x a i (t :: ts) = some s := by
  rw [entriesIn_cons, map_append, nodup_append] at hnodup
  rw [findIn_cons_of_none slot, h]
  refine (find_eq_none_iff slot parent _ t).mpr fun e he haddr => ?_
  obtain ⟨e', he', haddr'⟩ := exists_entryIn slot parent h
  exact hnodup.2.2 _ (mem_map_of_mem he) _ (mem_map_of_mem he') (haddr.trans haddr'.symm)

lemma findIn_slot (parent : Option β) (a : α) {s : PlacedTree α} : ∀ {i j : Nat}
    {ts : List (PlacedTree α)}, ((entriesIn slot parent a i ts).map (·.addr)).Nodup →
      ts[j]? = some s → findIn slot (slot a (i + j) s.label) a i ts = some s
  | i, j, [], _, h => by simp at h
  | i, 0, t :: ts, _, h => by
    obtain rfl := some.inj h
    exact findIn_cons_of_find slot (find_self slot t)
  | i, j + 1, t :: ts, hnodup, h => by
    have hnodup' := hnodup
    rw [entriesIn_cons, map_append, nodup_append] at hnodup'
    have ih := findIn_slot parent a (i := i + 1) hnodup'.2.1 h
    rw [Nat.add_right_comm, Nat.add_assoc] at ih
    exact findIn_cons_of_findIn slot parent hnodup ih

mutual

/-- **A child is found where its container keeps it**, in a tree whose nodes are all in different
places. -/
lemma find_child {s u : PlacedTree α} {i : Nat} (hs : s.children[i]? = some u)
    (parent : Option β) (here : β) : ∀ t : PlacedTree α,
      ((t.entries slot parent here).map (·.addr)).Nodup → t.find slot x here = some s →
        t.find slot (slot s.label i u.label) here = some u
  | node a ts, hnodup, hfind => by
    rw [entries_node, map_cons, nodup_cons] at hnodup
    have hin : findIn slot (slot s.label i u.label) a 0 ts = some u := by
      by_cases hx : here = x
      · obtain rfl := find_here slot hfind hx
        rw [← Nat.zero_add i]
        exact findIn_slot slot (some here) a hnodup.2 hs
      · rw [find_of_ne slot hx] at hfind
        exact findIn_child hs (some here) a 0 ts hnodup.2 hfind
    rw [find_of_ne slot, label_node, children_node, hin]
    intro heq
    obtain ⟨e, he, haddr⟩ := exists_entryIn slot (some here) hin
    exact hnodup.1 (mem_map.mpr ⟨e, he, haddr.trans heq.symm⟩)

lemma findIn_child {s u : PlacedTree α} {i : Nat} (hs : s.children[i]? = some u)
    (parent : Option β) (a : α) : ∀ (k : Nat) (ts : List (PlacedTree α)),
      ((entriesIn slot parent a k ts).map (·.addr)).Nodup → findIn slot x a k ts = some s →
        findIn slot (slot s.label i u.label) a k ts = some u
  | k, [], _, hfind => nomatch hfind
  | k, t :: ts, hnodup, hfind => by
    have hnodup' := hnodup
    rw [entriesIn_cons, map_append, nodup_append] at hnodup'
    cases ht : t.find slot x (slot a k t.label) with
    | some s' =>
      rw [findIn_cons_of_find slot ht, some.injEq] at hfind
      subst hfind
      exact findIn_cons_of_find slot (find_child hs parent _ t hnodup'.1 ht)
    | none =>
      rw [findIn_cons_of_none slot ht] at hfind
      exact findIn_cons_of_findIn slot parent hnodup
        (findIn_child hs parent a (k + 1) ts hnodup'.2.1 hfind)

end

end Find

/-! ### Conditions on all nodes -/

section Everywhere

variable (P : α → List α → Prop)

mutual

def Everywhere : PlacedTree α → Prop
  | node a ts => P a (ts.map label) ∧ EverywhereIn ts

def EverywhereIn : List (PlacedTree α) → Prop
  | [] => True
  | t :: ts => t.Everywhere ∧ EverywhereIn ts

end

variable {P}

lemma everywhereIn_iff : ∀ {ts : List (PlacedTree α)}, EverywhereIn P ts ↔ ∀ t ∈ ts, t.Everywhere P
  | [] => ⟨fun _ _ ht => (nomatch ht), fun _ => True.intro⟩
  | t :: ts => by rw [EverywhereIn, everywhereIn_iff, forall_mem_cons]

lemma everywhere_iff {t : PlacedTree α} : t.Everywhere P ↔
    P t.label (t.children.map label) ∧ ∀ s ∈ t.children, s.Everywhere P := by
  cases t with
  | node a ts => rw [Everywhere, everywhereIn_iff, label_node, children_node]

variable [DecidableEq β] (slot : α → Nat → α → β) {x : β}

mutual

lemma Everywhere.find {s : PlacedTree α} (here : β) : ∀ t : PlacedTree α, t.Everywhere P →
    t.find slot x here = some s → s.Everywhere P
  | node a ts, h, hfind => by
    by_cases hx : here = x
    · rw [find_here slot hfind hx]
      exact h
    · rw [find_of_ne slot hx] at hfind
      rw [Everywhere] at h
      exact EverywhereIn.find a 0 ts h.2 hfind

lemma EverywhereIn.find {s : PlacedTree α} (a : α) : ∀ (i : Nat) (ts : List (PlacedTree α)),
    EverywhereIn P ts → findIn slot x a i ts = some s → s.Everywhere P
  | i, [], _, hfind => nomatch hfind
  | i, t :: ts, h, hfind => by
    rw [EverywhereIn] at h
    cases ht : t.find slot x (slot a i t.label) with
    | some u =>
      rw [findIn_cons_of_find slot ht, some.injEq] at hfind
      subst hfind
      exact Everywhere.find _ t h.1 ht
    | none =>
      rw [findIn_cons_of_none slot ht] at hfind
      exact EverywhereIn.find a (i + 1) ts h.2 hfind

end

mutual

lemma Everywhere.modify {s s' : PlacedTree α} (hs' : s'.Everywhere P)
    (hlabel : ∀ a l₁ l₂, P a (l₁ ++ s.label :: l₂) → P a (l₁ ++ s'.label :: l₂)) (here : β) :
    ∀ t : PlacedTree α, t.Everywhere P → t.find slot x here = some s →
      (t.modify slot x (fun _ => s') here).Everywhere P
  | node a ts, h, hfind => by
    by_cases hx : here = x
    · subst hx
      rw [modify_self]
      exact hs'
    · rw [find_of_ne slot hx] at hfind
      rw [Everywhere] at h
      obtain ⟨hlabels, hin⟩ := EverywhereIn.modify hs' hlabel a 0 ts h.2 hfind
      rw [modify_of_ne slot hx, Everywhere]
      exact ⟨hlabels a [] h.1, hin⟩

lemma EverywhereIn.modify {s s' : PlacedTree α} (hs' : s'.Everywhere P)
    (hlabel : ∀ a l₁ l₂, P a (l₁ ++ s.label :: l₂) → P a (l₁ ++ s'.label :: l₂)) (a : α) :
    ∀ (i : Nat) (ts : List (PlacedTree α)), EverywhereIn P ts → findIn slot x a i ts = some s →
      (∀ b l, P b (l ++ ts.map label) →
        P b (l ++ (modifyIn slot x (fun _ => s') a i ts).map label)) ∧
      EverywhereIn P (modifyIn slot x (fun _ => s') a i ts)
  | i, [], _, hfind => nomatch hfind
  | i, t :: ts, h, hfind => by
    rw [EverywhereIn] at h
    cases ht : t.find slot x (slot a i t.label) with
    | some u =>
      rw [findIn_cons_of_find slot ht, some.injEq] at hfind
      subst hfind
      rw [modifyIn_cons_of_find slot ht]
      refine ⟨fun b l hb => ?_, Everywhere.modify hs' hlabel _ t h.1 ht, h.2⟩
      by_cases hx : slot a i t.label = x
      · obtain rfl := find_here slot ht hx
        subst hx
        rw [modify_self]
        exact hlabel b l _ hb
      · rw [modify_of_ne slot hx]
        exact hb
    | none =>
      rw [findIn_cons_of_none slot ht] at hfind
      obtain ⟨hlabels, hin⟩ := EverywhereIn.modify hs' hlabel a (i + 1) ts h.2 hfind
      rw [modifyIn_cons_of_none slot ht]
      refine ⟨fun b l hb => ?_, h.1, hin⟩
      rw [map_cons, append_cons] at hb ⊢
      exact hlabels b _ hb

end

end Everywhere

end PlacedTree
