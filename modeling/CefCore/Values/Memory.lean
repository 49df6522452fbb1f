import CefCore.Values.BaseValue
import Mathlib.Data.List.Count
import Mathlib.Data.List.Flatten

/-!
# The memory of values

Which blocks of memory a value owns, and that the operations on containers do not use a block
twice. Every address in a value is in a block that the value owns.

## Main definitions

* `Value.blocks`, `Built`: the blocks of a value, and values built from others.

## Implementation notes

A list of blocks has no duplicates if each number occurs at most once, and the number of
occurrences is additive. So the bounds are stated on `List.count`.
-/

namespace CefCore.Values

open PlacedTree List Nat

def Label.buffers (a : Label) : List Nat :=
  match a.kind with
  | .list buffer _ => [buffer]
  | _ => []

def blocks (v : Value) : List Nat := v.labels.flatMap fun a => a.cell :: a.buffers

def blocksIn (vs : List Value) : List Nat := vs.flatMap blocks

def innerBlocks (v : Value) : List Nat := v.label.buffers ++ blocksIn v.children

lemma blocks_eq (v : Value) : blocks v = v.label.cell :: innerBlocks v := by
  unfold blocks innerBlocks blocksIn
  rw [labels_eq, labelsIn_eq_flatMap, flatMap_cons, flatMap_assoc, cons_append]
  rfl

@[simp] lemma blocksIn_nil : blocksIn [] = [] := rfl

@[simp] lemma blocksIn_cons (v : Value) (vs : List Value) :
    blocksIn (v :: vs) = blocks v ++ blocksIn vs := flatMap_cons

@[simp] lemma blocksIn_append (vs us : List Value) :
    blocksIn (vs ++ us) = blocksIn vs ++ blocksIn us := flatMap_append

lemma mem_blocksIn {b : Nat} {vs : List Value} : b ∈ blocksIn vs ↔ ∃ v ∈ vs, b ∈ blocks v :=
  mem_flatMap

/-! ### Occurrences -/

/-- Whether a number is one of those from `next` on and before `next'`, as a number. -/
def fresh (next next' b : Nat) : Nat := if next ≤ b ∧ b < next' then 1 else 0

lemma fresh_add {n m k b : Nat} (h : n ≤ m) (h' : m ≤ k) :
    fresh n m b + fresh m k b = fresh n k b := by
  unfold fresh
  split <;> split <;> split <;> omega

lemma count_singleton (n b : Nat) : [n].count b = fresh n (n + 1) b := by
  unfold fresh
  by_cases h : n = b
  · rw [h, count_singleton_self, if_pos (by omega)]
  · rw [count_eq_zero_of_not_mem (by simpa using Ne.symm h), if_neg (by omega)]

lemma count_blocks (b : Nat) (v : Value) : (blocks v).count b =
    (innerBlocks v).count b + fresh v.label.cell (v.label.cell + 1) b := by
  rw [blocks_eq, ← count_singleton, ← singleton_append, count_append, add_comm]

lemma count_innerBlocks (b : Nat) (v : Value) : (innerBlocks v).count b =
    v.label.buffers.count b + (blocksIn v.children).count b := by
  rw [innerBlocks, count_append]

lemma count_blocksIn_eraseIdx (b : Nat) : ∀ {vs : List Value} {i : Nat} {v : Value},
    vs[i]? = some v → (blocksIn (vs.eraseIdx i)).count b + (blocks v).count b =
      (blocksIn vs).count b
  | [], i, v, h => by simp at h
  | u :: vs, 0, v, h => by
    obtain rfl : u = v := by simpa using h
    simp [count_append, add_comm]
  | u :: vs, i + 1, v, h => by
    have ih := count_blocksIn_eraseIdx b (i := i) (v := v) (by simpa using h)
    simp only [eraseIdx_cons_succ, blocksIn_cons, count_append]
    omega

lemma count_blocksIn_insertIdx_le (b : Nat) (v : Value) : ∀ (vs : List Value) (i : Nat),
    (blocksIn (vs.insertIdx i v)).count b ≤ (blocksIn vs).count b + (blocks v).count b
  | vs, 0 => by simp [count_append, add_comm]
  | [], i + 1 => by simp
  | u :: vs, i + 1 => by
    have ih := count_blocksIn_insertIdx_le b v vs i
    simp only [insertIdx_succ_cons, blocksIn_cons, count_append]
    omega

lemma count_blocksIn_set_le (b : Nat) (v : Value) : ∀ (vs : List Value) (i : Nat),
    (blocksIn (vs.set i v)).count b ≤ (blocksIn vs).count b + (blocks v).count b
  | [], i => by simp
  | u :: vs, 0 => by
    simp only [set_cons_zero, blocksIn_cons, count_append]
    omega
  | u :: vs, i + 1 => by
    have ih := count_blocksIn_set_le b v vs i
    simp only [set_cons_succ, blocksIn_cons, count_append]
    omega

lemma count_relabel (b next : Nat) (key : String) (v : Value) : (blocks (relabel next key v)).count b =
    (innerBlocks v).count b + fresh next (next + 1) b := by
  rw [count_blocks]
  rfl

lemma count_leaf_innerBlocks (b cell : Nat) (s : Scalar) :
    (innerBlocks (leaf cell (.scalar s))).count b = 0 := by
  simp [innerBlocks, leaf, Label.buffers]

lemma count_blocks_leaf (b cell : Nat) (s : Scalar) :
    (blocks (leaf cell (.scalar s))).count b ≤ fresh cell (cell + 1) b := by
  rw [count_blocks, count_leaf_innerBlocks, zero_add]
  exact le_refl _

/-! ### Changes of containers -/

/-- The container `v'` has been made from `v`, from what is in `content`, and from the numbers from
`next` on and before `next'`. -/
structure Built (v : Value) (extra : List Nat) (next : Nat) (v' : Value) (next' : Nat) : Prop where
  cell : v'.label.cell = v.label.cell
  le : next ≤ next'
  count_le : ∀ b, (blocks v').count b ≤ (blocks v).count b + extra.count b + fresh next next' b

variable {t v v' : Value} {x : Addr}

lemma Built.of_inner {extra : List Nat} {next next' : Nat}
    (hcell : v'.label.cell = v.label.cell) (hle : next ≤ next') (h : ∀ b, (innerBlocks v').count b ≤
      (innerBlocks v).count b + extra.count b + fresh next next' b) :
    Built v extra next v' next' := by
  refine ⟨hcell, hle, fun b => ?_⟩
  have := h b
  rw [count_blocks, count_blocks, hcell]
  omega

lemma Built.trans {v'' : Value} {extra extra' : List Nat} {n n' n'' : Nat}
    (h : Built v extra n v' n') (h' : Built v' extra' n' v'' n'') :
    Built v (extra ++ extra') n v'' n'' := by
  refine ⟨h'.cell.trans h.cell, le_trans h.le h'.le, fun b => ?_⟩
  have h₁ := h.count_le b
  have h₂ := h'.count_le b
  have h₃ := fresh_add (b := b) h.le h'.le
  rw [count_append]
  omega

lemma Built.refl (v : Value) (next : Nat) : Built v [] next v next :=
  ⟨rfl, le_refl _, fun b => by omega⟩

lemma built_eraseChild (i : Nat) (v : Value) (next : Nat) :
    Built v [] next (eraseChild i v) next := by
  have hbuffers : (eraseChild i v).label.buffers = v.label.buffers := by
    simp only [eraseChild, label_node, Label.buffers]
    cases v.label.kind <;> rfl
  refine Built.of_inner rfl (le_refl _) fun b => ?_
  rw [count_innerBlocks, count_innerBlocks, hbuffers]
  have hle : (blocksIn (eraseChild i v).children).count b ≤ (blocksIn v.children).count b := by
    show (blocksIn (v.children.eraseIdx i)).count b ≤ _
    cases h : v.children[i]? with
    | none =>
      exact le_of_eq (by rw [eraseIdx_of_length_le (getElem?_eq_none_iff.mp h)])
    | some t =>
      have := count_blocksIn_eraseIdx b h
      omega
  omega

lemma built_cleared (v : Value) (next : Nat) : Built v [] next (cleared v) next := by
  have hbuffers : (cleared v).label.buffers = v.label.buffers := by
    simp only [cleared, label_node, Label.buffers]
    cases v.label.kind <;> rfl
  refine Built.of_inner rfl (le_refl _) fun b => ?_
  rw [count_innerBlocks, count_innerBlocks, hbuffers]
  have : (blocksIn (cleared v).children).count b = 0 := by simp [cleared]
  omega

lemma built_insertElement (next i : Nat) (content v : Value) :
    Built v (innerBlocks content) next (insertElement next i content v).1
      (insertElement next i content v).2 := by
  have hcount : ∀ b, (blocksIn (v.children.insertIdx i (relabel next "" content))).count b ≤
      (blocksIn v.children).count b + (innerBlocks content).count b + fresh next (next + 1) b := by
    intro b
    have h₁ := count_blocksIn_insertIdx_le b (relabel next "" content) v.children i
    have h₂ := count_relabel b next "" content
    omega
  unfold insertElement
  split
  · rename_i buffer spare hkind
    refine Built.of_inner rfl (le_succ _) fun b => ?_
    have hbuffers : v.label.buffers = [buffer] := by simp [Label.buffers, hkind]
    have := hcount b
    rw [count_innerBlocks, count_innerBlocks, hbuffers]
    simp only [label_node, children_node, Label.buffers]
    omega
  · rename_i buffer hkind
    refine Built.of_inner rfl (le_add_right _ _) fun b => ?_
    have h₁ := hcount b
    have h₂ := fresh_add (n := next) (m := next + 1) (k := next + 2) (b := b) (by omega) (by omega)
    have h₃ : [next + 1].count b = fresh (next + 1) (next + 2) b := count_singleton _ _
    rw [count_innerBlocks, count_innerBlocks]
    simp only [label_node, children_node, Label.buffers]
    omega
  · exact ⟨rfl, le_refl _, fun b => by dsimp only; omega⟩

lemma built_appendNulls : ∀ (n next : Nat) (v : Value),
    Built v [] next (appendNulls n next v).1 (appendNulls n next v).2
  | 0, next, v => Built.refl v next
  | n + 1, next, v => by
    unfold appendNulls
    have h := built_insertElement next v.children.length (leaf next (.scalar .null)) v
    have hinner : innerBlocks (leaf next (.scalar .null)) = [] := rfl
    rw [hinner] at h
    exact h.trans (built_appendNulls n _ _)

lemma built_padTo (size next : Nat) (v : Value) :
    Built v [] next (padTo size next v).1 (padTo size next v).2 :=
  built_appendNulls _ next v

lemma built_assignElement (next i : Nat) (content v : Value) :
    Built v (innerBlocks content) next (assignElement next i content v) (next + 1) := by
  refine Built.of_inner rfl (le_succ _) fun b => ?_
  have h₁ := count_blocksIn_set_le b (relabel next "" content) v.children i
  have h₂ := count_relabel b next "" content
  rw [count_innerBlocks, count_innerBlocks]
  simp only [assignElement, label_node, children_node]
  omega

lemma built_insertEntry (next : Nat) (key : String) (content v : Value) :
    Built v (innerBlocks content) next (insertEntry next key content v) (next + 1) := by
  refine Built.of_inner rfl (le_succ _) fun b => ?_
  have h₁ : (blocksIn v.children).count b =
      (blocksIn (v.children.takeWhile (keyBefore key))).count b +
        (blocksIn (v.children.dropWhile (keyBefore key))).count b := by
    rw [← count_append, ← blocksIn_append, takeWhile_append_dropWhile]
  have h₂ := count_relabel b next key content
  rw [count_innerBlocks, count_innerBlocks]
  simp only [insertEntry, label_node, children_node, blocksIn_append, blocksIn_cons, count_append]
  omega

mutual

lemma count_clone (b : Nat) : ∀ (v : Value) (next : Nat), next ≤ (clone next v).2 ∧
    (blocks (clone next v).1).count b ≤ fresh next (clone next v).2 b
  | .node a ts, next => by
    obtain ⟨hle, hcount⟩ := count_cloneAll b ts (next + 2)
    have heq : clone next (.node a ts) = (.node ⟨next, a.key, a.kind.rebuffer (next + 1)⟩
        (cloneAll (next + 2) ts).1, (cloneAll (next + 2) ts).2) := rfl
    rw [heq]
    refine ⟨by dsimp only; omega, ?_⟩
    have hbuffers : (Label.buffers ⟨next, a.key, a.kind.rebuffer (next + 1)⟩).count b ≤
        fresh (next + 1) (next + 2) b := by
      unfold Label.buffers
      cases a.kind <;> simp [Kind.rebuffer]
      exact le_of_eq (count_singleton _ _)
    have h₁ := fresh_add (n := next) (m := next + 1) (k := next + 2) (b := b) (by omega) (by omega)
    have h₂ := fresh_add (b := b) (n := next) (m := next + 2) (by omega) hle
    rw [count_blocks, count_innerBlocks]
    simp only [label_node, children_node]
    omega

lemma count_cloneAll (b : Nat) : ∀ (vs : List Value) (next : Nat), next ≤ (cloneAll next vs).2 ∧
    (blocksIn (cloneAll next vs).1).count b ≤ fresh next (cloneAll next vs).2 b
  | [], next => by simp [cloneAll]
  | v :: vs, next => by
    obtain ⟨hle₁, hcount₁⟩ := count_clone b v next
    obtain ⟨hle₂, hcount₂⟩ := count_cloneAll b vs (clone next v).2
    have heq : cloneAll next (v :: vs) = ((clone next v).1 :: (cloneAll (clone next v).2 vs).1,
        (cloneAll (clone next v).2 vs).2) := rfl
    rw [heq]
    have h := fresh_add (b := b) hle₁ hle₂
    refine ⟨by dsimp only; omega, ?_⟩
    simp only [blocksIn_cons, count_append]
    omega

end

mutual

lemma count_removeEmptyValueDicts (b : Nat) : ∀ v : Value,
    (removeEmptyValueDicts v).label.cell = v.label.cell ∧
      (blocks (removeEmptyValueDicts v)).count b ≤ (blocks v).count b
  | .node a ts => by
    have ih := count_removeEmptyEntries b ts
    unfold removeEmptyValueDicts
    split
    · refine ⟨rfl, ?_⟩
      rw [count_blocks, count_blocks, count_innerBlocks, count_innerBlocks]
      simp only [label_node, children_node]
      omega
    · exact ⟨rfl, le_refl _⟩

lemma count_removeEmptyEntries (b : Nat) : ∀ vs : List Value,
    (blocksIn (removeEmptyEntries vs)).count b ≤ (blocksIn vs).count b
  | [] => by simp [removeEmptyEntries]
  | v :: vs => by
    have h₁ := (count_removeEmptyValueDicts b v).2
    have h₂ := count_removeEmptyEntries b vs
    unfold removeEmptyEntries
    dsimp only
    split
    · simp only [blocksIn_cons, count_append]
      omega
    · simp only [blocksIn_cons, count_append]
      omega

end

/-! ### Addresses -/

mutual

lemma addr_block (p : Option Addr) (here : Addr) : ∀ v : Value, ∀ e ∈ v.entries slot p here,
    e = ⟨p, here, v.label⟩ ∨ e.addr.block ∈ innerBlocks v
  | .node a ts => by
    intro e he
    rcases mem_cons.mp he with rfl | he
    · exact .inl rfl
    · exact .inr (addr_blockIn (some here) a 0 ts e he)

lemma addr_blockIn (p : Option Addr) (a : Label) : ∀ (i : Nat) (ts : List Value),
    ∀ e ∈ entriesIn slot p a i ts, e.addr.block ∈ a.buffers ++ blocksIn ts
  | i, [] => by simp [entriesIn]
  | i, t :: ts => by
    intro e he
    rw [entriesIn] at he
    rw [blocksIn_cons]
    rcases mem_append.mp he with he | he
    · rcases addr_block p (slot a i t.label) t e he with rfl | hblock
      · have hcell : t.label.cell ∈ blocks t := by
          rw [blocks_eq]
          exact mem_cons_self
        unfold slot Label.buffers
        cases a.kind <;> simp [hcell]
      · have : e.addr.block ∈ blocks t := by
          rw [blocks_eq]
          exact mem_cons_of_mem _ hblock
        simp [this]
    · have := addr_blockIn p a (i + 1) ts e he
      simp only [mem_append] at this ⊢
      tauto

end

lemma slot_block {i : Nat} (h : v.children[i]? = some t) :
    (slot v.label i t.label).block ∈ innerBlocks v := by
  have hcell : t.label.cell ∈ blocksIn v.children := by
    refine mem_blocksIn.mpr ⟨t, mem_of_getElem? h, ?_⟩
    rw [blocks_eq]
    exact mem_cons_self
  unfold innerBlocks slot Label.buffers
  cases v.label.kind <;> simp [hcell]

/-- **A change deep in a value**: the entries outside of the changed container stay, and so do the
cell and the blocks. -/
lemma modify_spec {here : Addr} (h : t.find slot x here = some v)
    (hcell : v'.label.cell = v.label.cell) :
    (t.modify slot x (fun _ => v') here).label.cell = t.label.cell ∧
    (∃ q ctx, (t.entries slot none here).Perm (v.entries slot q x ++ ctx) ∧
      ((t.modify slot x (fun _ => v') here).entries slot none here).Perm
        (v'.entries slot q x ++ ctx)) ∧
    ∀ b, (blocks (t.modify slot x (fun _ => v') here)).count b + (blocks v).count b =
      (blocks t).count b + (blocks v').count b := by
  have hslot : ∀ a i, slot a i v'.label = slot a i v.label := by
    intro a i
    unfold slot
    rw [hcell]
  have hlabel : (t.modify slot x (fun _ => v') here).label.cell = t.label.cell := by
    by_cases hx : here = x
    · obtain rfl := find_here slot h hx
      subst hx
      rw [modify_self]
      exact hcell
    · rw [modify_of_ne slot hx, label_node]
  obtain ⟨q, ctx, hperm, hmodify⟩ := exists_context slot none here t v h
  have hperm' := hmodify (fun _ => v') hslot
  refine ⟨hlabel, ⟨q, ctx, hperm, hperm'⟩, fun b => ?_⟩
  have hblocks : ∀ {u w : Value} {q : Option Addr} {y : Addr} {ctx},
      (u.entries slot none here).Perm (w.entries slot q y ++ ctx) →
      (blocks u).count b = (blocks w).count b +
        ((ctx.map (·.label)).flatMap fun a => a.cell :: a.buffers).count b := by
    intro u w q y ctx hp
    have := ((hp.map (·.label)).flatMap_right fun a => a.cell :: a.buffers).count_eq b
    rw [map_label_entries, map_append, map_label_entries, flatMap_append, count_append] at this
    exact this
  rw [hblocks hperm, hblocks hperm']
  omega

lemma rootAddr_modify (h : t.find slot x (rootAddr t) = some v)
    (hcell : v'.label.cell = v.label.cell) :
    rootAddr (t.modify slot x (fun _ => v') (rootAddr t)) = rootAddr t :=
  congrArg (fun n => (⟨n, 0⟩ : Addr)) (modify_spec h hcell).1

lemma count_innerBlocks_find {here : Addr} (h : t.find slot x here = some v)
    (b : Nat) : (innerBlocks v).count b ≤ (innerBlocks t).count b := by
  by_cases hx : here = x
  · rw [find_here slot h hx]
  · rw [find_of_ne slot hx] at h
    obtain ⟨q, ctx, hperm, -⟩ := exists_contextIn slot none t.label 0 t.children v h
    have := ((hperm.map (·.label)).flatMap_right fun a => a.cell :: a.buffers).count_eq b
    rw [map_label_entriesIn, map_append, map_label_entries, flatMap_append,
      count_append, labelsIn_eq_flatMap, flatMap_assoc] at this
    have hle : (blocks v).count b ≤ (blocksIn t.children).count b :=
      le_trans (le_add_right _ _) (le_of_eq this.symm)
    have := count_blocks b v
    rw [count_innerBlocks b t]
    omega

end CefCore.Values
