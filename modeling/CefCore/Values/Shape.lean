import CefCore.Values.Memory

/-!
# The shape of values

Two facts about the trees that calls can build: no two values in a tree have the same address, and
only lists and dictionaries have children.

## Main definitions

* `Value.formed`: only containers have children.
-/

namespace CefCore.Values

open PlacedTree List Bool

/-! ### Addresses -/

/-- A child is in the buffer of a list, or in its own cell. -/
lemma slot_cases (a : Label) (i : Nat) (b : Label) :
    (∃ buffer, a.buffers = [buffer] ∧ slot a i b = ⟨buffer, i⟩) ∨
      a.buffers = [] ∧ slot a i b = ⟨b.cell, 0⟩ := by
  unfold slot Label.buffers
  cases a.kind with
  | list buffer spare => exact .inl ⟨buffer, rfl, rfl⟩
  | scalar s => exact .inr ⟨rfl, rfl⟩
  | binary data => exact .inr ⟨rfl, rfl⟩
  | dict => exact .inr ⟨rfl, rfl⟩

/-- The addresses below a child are in the buffer of its parent, or in blocks of the child. -/
lemma addr_block_child {a : Label} {p : Option Addr} {i : Nat} {t : Value} {e : Entry Label Addr}
    (he : e ∈ t.entries slot p (slot a i t.label)) :
    (∃ buffer, a.buffers = [buffer] ∧ e.addr = ⟨buffer, i⟩) ∨ e.addr.block ∈ blocks t := by
  have hcell : t.label.cell ∈ blocks t := by
    rw [blocks_eq]
    exact mem_cons_self
  rcases addr_block p (slot a i t.label) t e he with rfl | hblock
  · rcases slot_cases a i t.label with ⟨buffer, hbuffers, hslot⟩ | ⟨-, hslot⟩
    · exact .inl ⟨buffer, hbuffers, hslot⟩
    · right
      rw [hslot]
      exact hcell
  · right
    rw [blocks_eq]
    exact mem_cons_of_mem _ hblock

mutual

/-- Values in a tree whose blocks are used once have different addresses. -/
lemma nodup_addrs (p : Option Addr) (here : Addr) : ∀ v : Value,
    (∀ b, (innerBlocks v).count b ≤ 1) → here.block ∉ innerBlocks v →
      ((v.entries slot p here).map (·.addr)).Nodup
  | .node a ts => by
    intro hcount hhere
    rw [entries, map_cons, nodup_cons]
    refine ⟨fun hmem => ?_, nodup_addrsIn (some here) a 0 ts hcount⟩
    obtain ⟨e, he, heq⟩ := mem_map.mp hmem
    have heq : e.addr = here := heq
    rw [← heq] at hhere
    exact hhere (addr_blockIn (some here) a 0 ts e (heq ▸ he))

/-- The same of the children of a value, from the `i`-th one on. -/
lemma nodup_addrsIn (p : Option Addr) (a : Label) : ∀ (i : Nat) (ts : List Value),
    (∀ b, (a.buffers ++ blocksIn ts).count b ≤ 1) → ((entriesIn slot p a i ts).map (·.addr)).Nodup
  | i, [] => by simp [entriesIn]
  | i, t :: ts => by
    intro hcount
    have hcount' : ∀ b, a.buffers.count b + ((blocks t).count b + (blocksIn ts).count b) ≤ 1 := by
      intro b
      have := hcount b
      rwa [blocksIn_cons, count_append, count_append] at this
    have hinner : ∀ b, (innerBlocks t).count b ≤ 1 := by
      intro b
      have h₁ := hcount' b
      have h₂ := count_blocks b t
      omega
    have hslot : (slot a i t.label).block ∉ innerBlocks t := by
      intro hmem
      have h₁ := hcount' (slot a i t.label).block
      have h₂ := count_blocks (slot a i t.label).block t
      have h₃ := count_pos_iff.mpr hmem
      rcases slot_cases a i t.label with ⟨buffer, hbuffers, hslot⟩ | ⟨-, hslot⟩
      · rw [hbuffers, hslot] at h₁
        rw [hslot] at h₂ h₃
        simp only [count_singleton_self] at h₁ h₂ h₃
        omega
      · rw [hslot] at h₁ h₂ h₃
        have h₄ : fresh t.label.cell (t.label.cell + 1) t.label.cell = 1 := by
          unfold fresh
          exact if_pos (by omega)
        dsimp only at h₁ h₂ h₃
        omega
    rw [entriesIn, map_append, nodup_append]
    refine ⟨nodup_addrs p _ t hinner hslot, nodup_addrsIn p a (i + 1) ts fun b => ?_, ?_⟩
    · rw [count_append]
      have := hcount' b
      omega
    · rintro x hx y hy rfl
      obtain ⟨e, he, hex⟩ := mem_map.mp hx
      obtain ⟨e', he', hex'⟩ := mem_map.mp hy
      obtain ⟨j, u, hu, he'⟩ := (mem_entriesIn slot p a).mp he'
      have hcount := hcount' x.block
      have hts : x.block ∈ blocks u → 0 < (blocksIn ts).count x.block := fun hmem =>
        count_pos_iff.mpr (mem_blocksIn.mpr ⟨u, mem_of_getElem? hu, hmem⟩)
      rcases addr_block_child he with ⟨buffer, hbuffers, haddr⟩ | hblock
      · rw [hex] at haddr
        subst haddr
        rcases addr_block_child he' with ⟨buffer', -, haddr'⟩ | hblock'
        · rw [hex', Addr.mk.injEq] at haddr'
          omega
        · rw [hex'] at hblock'
          have := hts hblock'
          rw [hbuffers] at hcount
          simp only [count_singleton_self] at hcount this
          omega
      · rw [hex] at hblock
        have h₁ := count_pos_iff.mpr hblock
        rcases addr_block_child he' with ⟨buffer', hbuffers, haddr'⟩ | hblock'
        · rw [hex'] at haddr'
          subst haddr'
          rw [hbuffers] at hcount
          simp only [count_singleton_self] at hcount h₁
          omega
        · rw [hex'] at hblock'
          have := hts hblock'
          omega

end

/-! ### Children -/

mutual

/-- Only lists and dictionaries have children. -/
def formed : Value → Bool
  | .node a ts => (a.kind.isContainer || ts.isEmpty) && formedIn ts

def formedIn : List Value → Bool
  | [] => true
  | t :: ts => formed t && formedIn ts

end

lemma formed_eq (a : Label) (ts : List Value) :
    formed (.node a ts) = ((a.kind.isContainer || ts.isEmpty) && formedIn ts) := rfl

lemma formedIn_cons (t : Value) (ts : List Value) :
    formedIn (t :: ts) = (formed t && formedIn ts) := rfl

lemma formedIn_iff {ts : List Value} : formedIn ts = true ↔ ∀ t ∈ ts, formed t = true := by
  induction ts with
  | nil => exact iff_of_true rfl (forall_mem_nil _)
  | cons t ts ih => rw [formedIn_cons, and_eq_true, ih, forall_mem_cons]

variable {content v : Value}

lemma formed_iff : formed v = true ↔
    (v.label.kind.isContainer = false → v.children = []) ∧ ∀ t ∈ v.children, formed t = true := by
  cases v with
  | node a ts =>
    rw [formed_eq, and_eq_true, formedIn_iff, label_node, children_node]
    cases a.kind.isContainer <;> simp

/-- A container of formed values is formed. -/
lemma formed_node {a : Label} {ts : List Value} (ha : a.kind.isContainer = true)
    (hts : ∀ t ∈ ts, formed t = true) : formed (.node a ts) = true := by
  rw [formed_eq, ha, Bool.true_or, Bool.true_and, formedIn_iff]
  exact hts

lemma formed_leaf (cell : Nat) (kind : Kind) : formed (leaf cell kind) = true := by
  rw [leaf, formed_eq, isEmpty_nil, Bool.or_true]
  rfl

/-- A copy under another key is formed. -/
lemma formed_relabel (h : formed v = true) (cell : Nat) (key : String) :
    formed (relabel cell key v) = true := by
  rw [formed_iff] at h ⊢
  exact h

/-- Removing a child keeps the shape. -/
lemma formed_eraseChild (h : formed v = true) (i : Nat) : formed (eraseChild i v) = true := by
  rw [formed_iff] at h ⊢
  obtain ⟨hempty, hchildren⟩ := h
  refine ⟨fun hkind => ?_, fun t ht => hchildren t (mem_of_mem_eraseIdx ht)⟩
  have hkind' : v.label.kind.isContainer = false := by
    rw [← hkind]
    simp only [eraseChild, label_node]
    cases v.label.kind <;> rfl
  simp [eraseChild, hempty hkind']

lemma formed_cleared (v : Value) : formed (cleared v) = true := by
  rw [formed_iff]
  exact ⟨fun _ => rfl, fun _ ht => nomatch ht⟩

/-- Inserting an element keeps the shape. -/
lemma formed_insertElement (h : formed v = true) (hcontent : formed content = true)
    (next i : Nat) : formed (insertElement next i content v).1 = true := by
  have hchildren : ∀ t ∈ v.children.insertIdx i (relabel next "" content), formed t = true := by
    rw [formed_iff] at h
    intro t ht
    rcases eq_or_mem_of_mem_insertIdx ht with rfl | ht
    · exact formed_relabel hcontent next ""
    · exact h.2 t ht
  unfold insertElement
  split
  · exact formed_node rfl hchildren
  · exact formed_node rfl hchildren
  · exact h

lemma formed_appendNulls : ∀ {n next : Nat} {v : Value}, formed v = true →
    formed (appendNulls n next v).1 = true
  | 0, _, _, h => h
  | n + 1, next, v, h => by
    unfold appendNulls
    exact formed_appendNulls (formed_insertElement h (formed_leaf _ _) _ _)

/-- So does `resize`. -/
lemma formed_padTo (h : formed v = true) (size next : Nat) :
    formed (padTo size next v).1 = true := formed_appendNulls h

lemma formed_assignElement (h : formed v = true) (hcontent : formed content = true)
    (next i : Nat) : formed (assignElement next i content v) = true := by
  rw [formed_iff] at h ⊢
  obtain ⟨hempty, hchildren⟩ := h
  refine ⟨fun hkind => ?_, fun t ht => ?_⟩
  · simp [assignElement, hempty hkind]
  · rcases mem_or_eq_of_mem_set ht with ht | rfl
    · exact hchildren t ht
    · exact formed_relabel hcontent next ""

lemma formed_insertEntry (h : formed v = true) (hcontent : formed content = true)
    (hkind : v.label.kind.isContainer = true) (next : Nat) (key : String) :
    formed (insertEntry next key content v) = true := by
  rw [formed_iff] at h
  obtain ⟨-, hchildren⟩ := h
  refine formed_node hkind fun t ht => ?_
  rcases mem_append.mp ht with ht | ht
  · exact hchildren t (takeWhile_subset _ ht)
  · rcases mem_cons.mp ht with rfl | ht
    · exact formed_relabel hcontent next key
    · exact hchildren t (dropWhile_subset _ ht)

mutual

/-- So does a deep copy. -/
lemma formed_clone : ∀ (v : Value) (next : Nat), formed v = true → formed (clone next v).1 = true
  | .node a ts, next, h => by
    rw [formed_eq, and_eq_true] at h
    obtain ⟨hempty, hin⟩ := formed_cloneAll ts (next + 2) h.2
    have hkind : (a.kind.rebuffer (next + 1)).isContainer = a.kind.isContainer := by
      cases a.kind <;> rfl
    show formed (.node ⟨next, a.key, a.kind.rebuffer (next + 1)⟩ (cloneAll (next + 2) ts).1) = true
    rw [formed_eq, and_eq_true, hkind, hempty]
    exact ⟨h.1, hin⟩

lemma formed_cloneAll : ∀ (vs : List Value) (next : Nat), formedIn vs = true →
    (cloneAll next vs).1.isEmpty = vs.isEmpty ∧ formedIn (cloneAll next vs).1 = true
  | [], next, h => ⟨rfl, rfl⟩
  | v :: vs, next, h => by
    rw [formedIn_cons, and_eq_true] at h
    refine ⟨rfl, ?_⟩
    show formedIn ((clone next v).1 :: (cloneAll (clone next v).2 vs).1) = true
    rw [formedIn_cons, and_eq_true]
    exact ⟨formed_clone v next h.1, (formed_cloneAll vs _ h.2).2⟩

end

mutual

/-- So does leaving out the empty dictionaries. -/
lemma formed_removeEmptyValueDicts : ∀ v : Value, formed v = true →
    formed (removeEmptyValueDicts v) = true
  | .node a ts, h => by
    unfold removeEmptyValueDicts
    split
    · rename_i hkind
      rw [formed_eq, and_eq_true] at h
      refine formed_node (by rw [hkind]; rfl) ?_
      rw [← formedIn_iff]
      exact formed_removeEmptyEntries ts h.2
    · exact h

lemma formed_removeEmptyEntries : ∀ vs : List Value, formedIn vs = true →
    formedIn (removeEmptyEntries vs) = true
  | [], h => rfl
  | v :: vs, h => by
    rw [formedIn_cons, and_eq_true] at h
    unfold removeEmptyEntries
    dsimp only
    split
    · exact formed_removeEmptyEntries vs h.2
    · rw [formedIn_cons, and_eq_true]
      exact ⟨formed_removeEmptyValueDicts v h.1, formed_removeEmptyEntries vs h.2⟩

end

mutual

/-- Every value in a formed tree is formed. -/
lemma formed_find {x : Addr} {s : Value} (here : Addr) : ∀ t : Value, formed t = true →
    t.find slot x here = some s → formed s = true
  | .node a ts, h, hfind => by
    by_cases hx : here = x
    · rw [find_here slot hfind hx]
      exact h
    · rw [find_of_ne slot hx] at hfind
      rw [formed_eq, and_eq_true] at h
      exact formed_findIn a 0 ts h.2 hfind

lemma formed_findIn {x : Addr} {s : Value} (a : Label) : ∀ (i : Nat) (ts : List Value),
    formedIn ts = true → findIn slot x a i ts = some s → formed s = true
  | i, [], _, hfind => by simp [findIn] at hfind
  | i, t :: ts, h, hfind => by
    rw [formedIn_cons, and_eq_true] at h
    cases ht : t.find slot x (slot a i t.label) with
    | some u =>
      rw [findIn_cons_of_find slot ht, Option.some.injEq] at hfind
      subst hfind
      exact formed_find _ t h.1 ht
    | none =>
      rw [findIn_cons_of_none slot ht] at hfind
      exact formed_findIn a (i + 1) ts h.2 hfind

end

mutual

lemma formed_modify {x : Addr} {s : Value} (hs : formed s = true) (here : Addr) : ∀ t : Value,
    formed t = true → formed (t.modify slot x (fun _ => s) here) = true
  | .node a ts, h => by
    by_cases hx : here = x
    · subst hx
      rw [modify_self]
      exact hs
    · rw [modify_of_ne slot hx]
      rw [formed_eq, and_eq_true] at h
      obtain ⟨hempty, hin⟩ := formed_modifyIn hs a 0 ts h.2
      rw [formed_eq, and_eq_true]
      refine ⟨?_, hin⟩
      simp only [label_node, children_node]
      rw [hempty]
      exact h.1

lemma formed_modifyIn {x : Addr} {s : Value} (hs : formed s = true) (a : Label) :
    ∀ (i : Nat) (ts : List Value), formedIn ts = true →
      (modifyIn slot x (fun _ => s) a i ts).isEmpty = ts.isEmpty ∧
        formedIn (modifyIn slot x (fun _ => s) a i ts) = true
  | i, [], _ => ⟨rfl, rfl⟩
  | i, t :: ts, h => by
    rw [formedIn_cons, and_eq_true] at h
    unfold modifyIn
    split
    · refine ⟨rfl, ?_⟩
      rw [formedIn_cons, and_eq_true]
      exact ⟨formed_modify hs _ t h.1, h.2⟩
    · refine ⟨rfl, ?_⟩
      rw [formedIn_cons, and_eq_true]
      exact ⟨h.1, (formed_modifyIn hs a (i + 1) ts h.2).2⟩

end

end CefCore.Values
