import CefCore.Values.Containers
import CefCore.Values.Invalidation

/-!
# Ranks of blocks

Numbers for the blocks of memory that grow on the way down in a value: from the address of a container
to its buffer and to the addresses of its children. They do not change when the elements of a list
move, and when a list gets a new buffer, this gets the rank of the old one. So they can be kept as
long as a block is there, and longer.

## Main definitions

* `Ranked`: the ranks are right for a value.
-/

namespace CefCore.Values

open PlacedTree List Nat

variable {rank rank' : Nat → Nat} {q q' : Option Addr} {x y : Addr} {t u v v' element : Value}

/-- The ranks grow on the way down in the value `t`, at the address `x` in a container at `q`. -/
def Ranked (rank : Nat → Nat) (q : Option Addr) (x : Addr) (t : Value) : Prop :=
  ∀ e ∈ t.entries slot q x, (∀ b ∈ e.label.buffers, rank e.addr.block < rank b) ∧
    ∀ p ∈ e.parent, rank p.block < rank e.addr.block

lemma ranked_iff : Ranked rank q x t ↔ (∀ b ∈ t.label.buffers, rank x.block < rank b) ∧
    (∀ p ∈ q, rank p.block < rank x.block) ∧
    ∀ i s, t.children[i]? = some s →
      Ranked rank (some x) (slot t.label i s.label) s := by
  unfold Ranked
  rw [entries_eq, forall_mem_cons, and_assoc]
  refine and_congr_right fun _ => and_congr_right fun _ => ⟨fun h i s hs e he => ?_, fun h e he => ?_⟩
  · exact h e ((mem_entriesIn slot (some x) t.label).mpr ⟨i, s, hs, by rw [zero_add]; exact he⟩)
  · obtain ⟨i, s, hs, he⟩ := (mem_entriesIn slot (some x) t.label).mp he
    rw [zero_add] at he
    exact h i s hs e he

section

variable (h : Ranked rank q x t)
include h

lemma Ranked.buffer {b : Nat} (hb : b ∈ t.label.buffers) : rank x.block < rank b := by
  rw [ranked_iff] at h
  exact h.1 b hb

lemma Ranked.child {i : Nat} {s : Value} (hs : t.children[i]? = some s) :
    Ranked rank (some x) (slot t.label i s.label) s := by
  rw [ranked_iff] at h
  exact h.2.2 i s hs

lemma Ranked.child_lt {i : Nat} {s : Value} (hs : t.children[i]? = some s) :
    rank x.block < rank (slot t.label i s.label).block := by
  have hchild := h.child hs
  rw [ranked_iff] at hchild
  exact hchild.2.1 x rfl

lemma Ranked.move (hle : rank y.block ≤ rank x.block)
    (hq : ∀ p ∈ q', rank p.block < rank y.block) : Ranked rank q' y t := by
  rw [ranked_iff]
  refine ⟨fun b hb => lt_of_le_of_lt hle (h.buffer hb), hq, fun i s hs => ?_⟩
  have hchild := h.child hs
  rw [ranked_iff] at hchild ⊢
  obtain ⟨hbuffers, hparent, hchildren⟩ := hchild
  refine ⟨hbuffers, fun p hp => ?_, hchildren⟩
  cases hp
  exact lt_of_le_of_lt hle (hparent x rfl)

lemma Ranked.relabel (cell : Nat) (key : String) : Ranked rank q x (relabel cell key t) := by
  rw [ranked_iff] at h ⊢
  exact ⟨h.1, h.2.1, h.2.2⟩

end

lemma ranked_leaf {cell : Nat} {kind : Kind}
    (hbuffers : ∀ b ∈ (leaf cell kind).label.buffers, rank x.block < rank b)
    (hq : ∀ p ∈ q, rank p.block < rank x.block) : Ranked rank q x (leaf cell kind) := by
  rw [ranked_iff]
  exact ⟨hbuffers, hq, fun i s hs => by simp [leaf] at hs⟩

lemma buffers_of_entry {e : Entry Label Addr} {b : Nat} (he : e ∈ t.entries slot q x)
    (hb : b ∈ e.label.buffers) : b ∈ blocks t := by
  have hlabel : e.label ∈ t.labels := by
    rw [← map_label_entries slot q x t]
    exact mem_map_of_mem he
  exact mem_flatMap.mpr ⟨e.label, hlabel, mem_cons_of_mem _ hb⟩

lemma Ranked.shift (k : Nat) (h : Ranked rank none (rootAddr t) t)
    (hshift : ∀ b ∈ blocks t, rank' b = rank b + k) : Ranked rank' none (rootAddr t) t := by
  intro e he
  obtain ⟨hbuffers, hparent⟩ := h e he
  rw [hshift _ (World.block_of_entry he)]
  refine ⟨fun b hb => ?_, fun p hp => ?_⟩
  · rw [hshift b (buffers_of_entry he hb)]
    exact Nat.add_lt_add_right (hbuffers b hb) k
  · rw [hshift _ (World.block_of_parent he hp)]
    exact Nat.add_lt_add_right (hparent p hp) k

lemma Ranked.find (h : Ranked rank none (rootAddr t) t) (hfind : t.find slot x (rootAddr t) = some v) :
    ∃ q, Ranked rank q x v := by
  obtain ⟨q, hsub⟩ := World.entries_of_find hfind
  exact ⟨q, fun e he => h e (hsub e he)⟩

lemma ranked_modify (h : Ranked rank none y t) (hfind : t.find slot x y = some v)
    (hcell : v'.label.cell = v.label.cell) (hv : ∀ q, Ranked rank q x v → Ranked rank q x v') :
    Ranked rank none y (t.modify slot x (fun _ => v') y) := by
  obtain ⟨-, ⟨q, ctx, hperm, hperm'⟩, -⟩ := modify_spec hfind hcell
  have hv' : Ranked rank q x v' := hv q fun e he =>
    h e (hperm.mem_iff.mpr (mem_append_left _ he))
  intro e he
  rcases mem_append.mp (hperm'.mem_iff.mp he) with he | he
  · exact hv' e he
  · exact h e (hperm.mem_iff.mpr (mem_append_right _ he))

/-! ### Containers -/

lemma block_slot (a b : Label) (i j : Nat) : (slot a i b).block = (slot a j b).block := by
  unfold slot
  cases a.kind <;> rfl

lemma Ranked.fewer (h : Ranked rank q x v) (hbuffers : v'.label.buffers = v.label.buffers)
    (hslot : ∀ i b, slot v'.label i b = slot v.label i b) (hsub : ∀ s ∈ v'.children, s ∈ v.children) :
    Ranked rank q x v' := by
  have hranked := h
  rw [ranked_iff] at hranked ⊢
  refine ⟨by rw [hbuffers]; exact hranked.1, hranked.2.1, fun i s hs => ?_⟩
  obtain ⟨j, hj⟩ := mem_iff_getElem?.mp (hsub s (mem_of_getElem? hs))
  have hblock : (slot v'.label i s.label).block = (slot v.label j s.label).block := by
    rw [hslot]
    exact block_slot _ _ _ _
  refine (h.child hj).move (le_of_eq (congrArg rank hblock)) fun p hp => ?_
  cases hp
  rw [hblock]
  exact h.child_lt hj

lemma Ranked.eraseChild (h : Ranked rank q x v) (i : Nat) : Ranked rank q x (eraseChild i v) := by
  refine h.fewer ?_ (fun j b => slot_eraseChild i j v b) fun s hs => mem_of_mem_eraseIdx hs
  simp only [CefCore.Values.eraseChild, label_node, Label.buffers]
  cases v.label.kind <;> rfl

lemma Ranked.cleared (h : Ranked rank q x v) : Ranked rank q x (cleared v) := by
  refine h.fewer ?_ (fun j b => ?_) fun s hs => by simp [CefCore.Values.cleared] at hs
  · simp only [CefCore.Values.cleared, label_node, Label.buffers]
    cases v.label.kind <;> rfl
  · simp only [CefCore.Values.cleared, label_node, slot]
    cases v.label.kind <;> rfl

lemma ranked_list {r buffer spare : Nat} (hq : ∀ p ∈ q, rank p.block < rank x.block)
    (hkind : v.label.kind = .list buffer spare) (hbuffer : rank buffer = r) (hr : rank x.block < r)
    (hchildren : ∀ s ∈ v.children, ∃ q' y, Ranked rank q' y s ∧ r ≤ rank y.block) :
    Ranked rank q x v := by
  have hbuffers : v.label.buffers = [buffer] := by simp [Label.buffers, hkind]
  have hslot : ∀ i b, slot v.label i b = ⟨buffer, i⟩ := fun i b => by simp [slot, hkind]
  rw [ranked_iff]
  refine ⟨fun b hb => ?_, hq, fun i s hs => ?_⟩
  · rw [hbuffers, mem_singleton] at hb
    rw [hb, hbuffer]
    exact hr
  · obtain ⟨q', y, hranked, hle⟩ := hchildren s (mem_of_getElem? hs)
    rw [hslot]
    refine hranked.move (by rw [hbuffer]; exact hle) fun p hp => ?_
    cases hp
    rw [hbuffer]
    exact hr

def childRank (rank : Nat → Nat) (x : Addr) (v : Value) : Nat :=
  match v.label.kind with
  | .list buffer _ => rank buffer
  | _ => rank x.block + 1

lemma childRank_congr (hblock : rank' x.block = rank x.block)
    (hbuffers : ∀ b ∈ v.label.buffers, rank' b = rank b) : childRank rank' x v = childRank rank x v := by
  unfold childRank
  split
  · rename_i buffer spare hkind
    exact hbuffers buffer (by simp [Label.buffers, hkind])
  · rw [hblock]

lemma Ranked.lt_childRank (h : Ranked rank q x v) : rank x.block < childRank rank x v := by
  unfold childRank
  split
  · rename_i buffer spare hkind
    exact h.buffer (by simp [Label.buffers, hkind])
  · exact lt_succ_self _

lemma Ranked.setChild {pos : Position} {next : Nat} (h : Ranked rank q x v)
    (hsorted : v.Everywhere KeysSorted) (htype : v.label.kind.type = some (World.containerType pos))
    (hfresh : ∀ b, next ≤ b → rank b = childRank rank x v)
    (helement : Ranked rank none (rootAddr element) element)
    (hdeep : childRank rank x v ≤ rank element.label.cell) :
    Ranked rank q x (World.setChild v pos element next).1 := by
  have hlt := h.lt_childRank
  cases pos with
  | key key =>
    obtain ⟨u, hset, hlabel, hsub, -⟩ := World.setChild_key hsorted htype key element next
    have hslot : ∀ i b, slot u.label i b = ⟨b.cell, 0⟩ := fun i b =>
      slot_of_not_list (by rw [hlabel, htype]; simp [World.containerType])
    have hu : Ranked rank q x u := h.fewer (by rw [hlabel]) (fun i b => by rw [hlabel])
      fun s hs => hsub.mem hs
    rw [hset]
    refine ranked_iff.mpr ⟨(ranked_iff.mp hu).1, (ranked_iff.mp hu).2.1, fun i s hs => ?_⟩
    have hmem : s = CefCore.Values.relabel next key element ∨ s ∈ u.children := by
      rcases mem_append.mp (mem_of_getElem? hs) with hs | hs
      · exact .inr (takeWhile_subset _ hs)
      · exact (mem_cons.mp hs).imp id fun hs => dropWhile_subset _ hs
    show Ranked rank (some x) (slot u.label i s.label) s
    rw [hslot]
    rcases hmem with rfl | hmem
    · refine (helement.relabel next key).move ?_ fun p hp => ?_
      · show rank next ≤ rank element.label.cell
        rw [hfresh next (le_refl _)]
        exact hdeep
      · cases hp
        show rank x.block < rank next
        rw [hfresh next (le_refl _)]
        exact hlt
    · obtain ⟨j, hj⟩ := mem_iff_getElem?.mp hmem
      have hchild := hu.child hj
      rwa [hslot] at hchild
  | index i =>
    obtain ⟨buffer, spare, hkind⟩ := exists_kind_list htype
    obtain ⟨us, buffer', spare', cell, next', hset, -, hnull, hbuffer'⟩ :=
      World.setChild_index hkind i element next
    have hrank : childRank rank x v = rank buffer := by rw [childRank, hkind]
    rw [hset]
    refine ranked_list (ranked_iff.mp h).2.1 rfl ?_ hlt fun s hs => ?_
    · rcases hbuffer' with rfl | hle
      · exact hrank.symm
      · exact hfresh _ hle
    · rcases mem_or_eq_of_mem_set hs with hs | rfl
      · rcases mem_append.mp hs with hs | hs
        · obtain ⟨j, hj⟩ := mem_iff_getElem?.mp hs
          refine ⟨some x, _, h.child hj, ?_⟩
          rw [hrank]
          simp [slot, hkind]
        · obtain ⟨cell, rfl⟩ := hnull s hs
          refine ⟨none, ⟨buffer, 0⟩, ranked_leaf (fun b hb => ?_) (by simp), le_of_eq hrank⟩
          simp [leaf, Label.buffers] at hb
      · exact ⟨none, _, helement.relabel cell "", hdeep⟩

lemma Ranked.padTo {size next : Nat} (h : Ranked rank q x v)
    (htype : v.label.kind.type = some .list)
    (hfresh : ∀ b, next ≤ b → rank b = childRank rank x v) :
    Ranked rank q x (padTo size next v).1 := by
  obtain ⟨buffer, spare, hkind⟩ := exists_kind_list htype
  obtain ⟨us, buffer', spare', hpad, -, hnull, hbuffer', -⟩ :=
    appendNulls_spec (size - v.children.length) next hkind
  have hrank : childRank rank x v = rank buffer := by rw [childRank, hkind]
  rw [CefCore.Values.padTo, hpad]
  refine ranked_list (ranked_iff.mp h).2.1 rfl ?_ h.lt_childRank fun s hs => ?_
  · rcases hbuffer' with rfl | hle
    · exact hrank.symm
    · exact hfresh _ hle
  · rcases mem_append.mp hs with hs | hs
    · obtain ⟨j, hj⟩ := mem_iff_getElem?.mp hs
      refine ⟨some x, _, h.child hj, ?_⟩
      rw [hrank]
      simp [slot, hkind]
    · obtain ⟨cell, rfl⟩ := hnull s hs
      refine ⟨none, ⟨buffer, 0⟩, ranked_leaf (fun b hb => ?_) (by simp), le_of_eq hrank⟩
      simp [leaf, Label.buffers] at hb

/-! ### Copies -/

@[simp] lemma cell_clone (next : Nat) (v : Value) : (clone next v).1.label.cell = next := by
  cases v with
  | node a ts => rfl

mutual

lemma ranked_clone : ∀ (v : Value) (next : Nat) (q : Option Addr) (x : Addr), x.block ≤ next →
    (∀ p ∈ q, p.block < x.block) → Ranked id q x (clone next v).1
  | .node a ts, next, q, x, hx, hq => by
    have hchildren := ranked_cloneAll ts (next + 2)
    refine ranked_iff.mpr ⟨fun b hb => ?_, hq, fun i s hs => ?_⟩
    · have hb : b = next + 1 := by
        simp only [clone, label_node, Label.buffers] at hb
        cases hkind : a.kind <;> simp_all [Kind.rebuffer]
      show x.block < b
      omega
    · obtain ⟨hle, hranked⟩ := hchildren i s hs
      have hslot : (slot (clone next (.node a ts)).1.label i s.label).block ≤ s.label.cell ∧
          x.block < (slot (clone next (.node a ts)).1.label i s.label).block := by
        rcases slot_cases (clone next (.node a ts)).1.label i s.label with ⟨buffer, hbuffers, hslot⟩ |
          ⟨-, hslot⟩
        · have hbuffer : buffer = next + 1 := by
            simp only [clone, label_node, Label.buffers] at hbuffers
            cases hkind : a.kind <;> simp_all [Kind.rebuffer]
          rw [hslot]
          dsimp only
          omega
        · rw [hslot]
          dsimp only
          omega
      refine hranked _ _ hslot.1 fun p hp => ?_
      cases hp
      exact hslot.2

lemma ranked_cloneAll : ∀ (vs : List Value) (next i : Nat) (s : Value),
    (cloneAll next vs).1[i]? = some s → next ≤ s.label.cell ∧
      ∀ q x, x.block ≤ s.label.cell → (∀ p ∈ q, p.block < x.block) →
        Ranked id q x s
  | [], _, _, _, hs => by simp [cloneAll] at hs
  | v :: vs, next, 0, s, hs => by
    obtain rfl : (clone next v).1 = s := Option.some.inj hs
    rw [cell_clone]
    exact ⟨le_refl _, ranked_clone v next⟩
  | v :: vs, next, i + 1, s, hs => by
    obtain ⟨hle, hranked⟩ := ranked_cloneAll vs (clone next v).2 i s hs
    exact ⟨le_trans (count_clone 0 v next).1 hle, hranked⟩

end

mutual

lemma entries_removeEmptyValueDicts (q : Option Addr) (x : Addr) : ∀ v : Value,
    ((removeEmptyValueDicts v).entries slot q x).Sublist (v.entries slot q x)
  | .node a ts => by
    unfold removeEmptyValueDicts
    split
    · rename_i hkind
      rw [entries, entries]
      exact (entries_removeEmptyEntries (some x) hkind 0 0 ts).cons_cons _
    · exact List.Sublist.refl _

lemma entries_removeEmptyEntries (q : Option Addr) {a : Label} (ha : a.kind = .dict) :
    ∀ (i j : Nat) (ts : List Value),
      (entriesIn slot q a i (removeEmptyEntries ts)).Sublist (entriesIn slot q a j ts)
  | i, j, [] => List.Sublist.refl _
  | i, j, t :: ts => by
    have hslot : ∀ i b, slot a i b = ⟨b.cell, 0⟩ := fun i b => by simp [slot, ha]
    unfold removeEmptyEntries
    dsimp only
    split
    · rw [entriesIn]
      exact (entries_removeEmptyEntries q ha i (j + 1) ts).trans (sublist_append_right _ _)
    · rw [entriesIn, entriesIn, label_removeEmptyValueDicts, hslot, hslot]
      exact (entries_removeEmptyValueDicts q _ t).append
        (entries_removeEmptyEntries q ha (i + 1) (j + 1) ts)

end

end CefCore.Values
