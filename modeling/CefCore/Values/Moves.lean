import CefCore.Values.Ownership

/-!
# Children that stay and children that move

Which children of a container keep their addresses when it changes. The entries of a dictionary
always do. The elements of a list move down when one in front of them is erased, and move to a new
buffer when the list grows over its capacity; an element that is replaced moves none of the others.

## Main definitions

* `Value.Stays`, `Value.Remains`: children at the same address, or anywhere.
-/

namespace CefCore.Values

open PlacedTree List Option

variable {v v' v'' : Value} {i j : Nat}

/-- The child with the index `j` has the same address in `v'`. -/
def Stays (v v' : Value) (j : Nat) : Prop := ∀ t, v.children[j]? = some t →
  ∃ j', v'.children[j']? = some t ∧ slot v'.label j' t.label = slot v.label j t.label

/-- The child with the index `j` is in `v'` too. -/
def Remains (v v' : Value) (j : Nat) : Prop := ∀ t, v.children[j]? = some t →
  ∃ j' : Nat, v'.children[j']? = some t

/-- The list has not enough unused slots to get so long. -/
def Regrows (v : Value) (size : Nat) : Prop :=
  match v.label.kind with
  | .list _ spare => spare < size - v.children.length
  | _ => False

instance (v : Value) (size : Nat) : Decidable (Regrows v size) := by
  unfold Regrows
  split <;> infer_instance

lemma Stays.remains (h : Stays v v' j) : Remains v v' j := by
  intro t ht
  obtain ⟨j', ht', -⟩ := h t ht
  exact ⟨j', ht'⟩

lemma Stays.trans (h : Stays v v' j) (h' : ∀ j, Stays v' v'' j) : Stays v v'' j := by
  intro t ht
  obtain ⟨j', ht', hslot⟩ := h t ht
  obtain ⟨j'', ht'', hslot'⟩ := h' j' t ht'
  exact ⟨j'', ht'', hslot'.trans hslot⟩

lemma slot_of_not_list {a b : Label} {i : Nat} (h : a.kind.type ≠ some .list) :
    slot a i b = ⟨b.cell, 0⟩ := by
  unfold slot
  cases hkind : a.kind with
  | list buffer spare =>
    rw [hkind] at h
    exact (h rfl).elim
  | scalar s => rfl
  | binary data => rfl
  | dict => rfl

lemma exists_kind_list {a : Label} (h : a.kind.type = some .list) :
    ∃ buffer spare, a.kind = .list buffer spare := by
  cases hkind : a.kind with
  | list buffer spare => exact ⟨buffer, spare, rfl⟩
  | scalar s => simp [hkind, Kind.type] at h
  | binary data => simp [hkind, Kind.type] at h
  | dict => simp [hkind, Kind.type] at h

lemma stays_of_mem (h : v.label.kind.type ≠ some .list) (h' : v'.label.kind.type ≠ some .list)
    (hmem : ∀ t, v.children[j]? = some t → t ∈ v'.children) : Stays v v' j := by
  intro t ht
  obtain ⟨j', ht'⟩ := mem_iff_getElem?.mp (hmem t ht)
  exact ⟨j', ht', by rw [slot_of_not_list h, slot_of_not_list h']⟩

/-! ### Erased children -/

lemma type_eraseChild (i : Nat) (v : Value) :
    (eraseChild i v).label.kind.type = v.label.kind.type := by
  simp only [eraseChild, label_node]
  cases v.label.kind <;> rfl

lemma slot_eraseChild (i j : Nat) (v : Value) (b : Label) :
    slot (eraseChild i v).label j b = slot v.label j b := by
  simp only [eraseChild, label_node, slot]
  cases v.label.kind <;> rfl

lemma remains_eraseChild (v : Value) (h : j ≠ i) : Remains v (eraseChild i v) j := by
  intro t ht
  refine mem_iff_getElem?.mp (mem_eraseIdx_iff_getElem?.mpr ⟨j, h, ht⟩)

lemma stays_eraseChild (h : j < i ∨ j ≠ i ∧ v.label.kind.type ≠ some .list) :
    Stays v (eraseChild i v) j := by
  rcases h with hlt | ⟨hne, htype⟩
  · intro t ht
    refine ⟨j, ?_, slot_eraseChild i j v t.label⟩
    show (v.children.eraseIdx i)[j]? = some t
    rw [getElem?_eraseIdx_of_lt hlt, ht]
  · refine stays_of_mem htype (by rw [type_eraseChild]; exact htype) fun t ht => ?_
    exact mem_eraseIdx_iff_getElem?.mpr ⟨j, hne, ht⟩

/-! ### New children -/

variable {content : Value} {next size : Nat} {pos : Position}

lemma stays_insertEntry {key : String} (h : v.label.kind.type ≠ some .list) (j : Nat) :
    Stays v (insertEntry next key content v) j := by
  refine stays_of_mem h h fun t ht => ?_
  have hmem := mem_of_getElem? ht
  rw [← takeWhile_append_dropWhile (p := keyBefore key) (l := v.children), mem_append] at hmem
  rcases hmem with hmem | hmem
  · exact mem_append_left _ hmem
  · exact mem_append_right _ (mem_cons_of_mem _ hmem)

lemma insertElement_eraseChild {buffer spare : Nat}
    (hkind : v.label.kind = .list buffer spare) (hi : i < v.children.length) :
    (insertElement next i content (eraseChild i v)).1 =
      .node v.label (v.children.set i (relabel next "" content)) := by
  have hchildren : (eraseChild i v).children.insertIdx i (relabel next "" content) =
      v.children.set i (relabel next "" content) :=
    insertIdx_eraseIdx_self (Nat.ne_of_lt hi) _
  have hlabel : (eraseChild i v).label = { v.label with kind := .list buffer (spare + 1) } := by
    simp [eraseChild, hkind]
  unfold insertElement
  rw [hlabel]
  simp [hchildren, ← hkind]

lemma indexOf_index {k : Nat} (h : indexOf v (.index k) = some i) : k = i := by
  have h : (if k < v.children.length then some k else none) = some i := h
  split at h
  · exact some.inj h
  · cases h

lemma length_le_of_indexOf {k : Nat} (h : indexOf v (.index k) = none) : v.children.length ≤ k := by
  have h : (if k < v.children.length then some k else none) = none := h
  split at h
  · cases h
  · rename_i hle
    exact Nat.not_lt.mp hle

lemma stays_replaced
    (htype : v.label.kind.type = some (World.containerType pos)) (hi : indexOf v pos = some i)
    (hne : j ≠ i) : Stays v (World.place (eraseChild i v) pos true content next).1 j := by
  cases pos with
  | key key =>
    have hdict : v.label.kind.type ≠ some .list := by
      rw [htype]
      simp [World.containerType]
    have herase : Stays v (eraseChild i v) j := stays_eraseChild (.inr ⟨hne, hdict⟩)
    exact herase.trans fun j => stays_insertEntry (by rw [type_eraseChild]; exact hdict) j
  | index k =>
    have hlt := World.indexOf_lt hi
    obtain rfl : k = i := indexOf_index hi
    obtain ⟨buffer, spare, hkind⟩ := exists_kind_list htype
    intro t ht
    show ∃ j', (insertElement next k content (eraseChild k v)).1.children[j']? = some t ∧
      slot (insertElement next k content (eraseChild k v)).1.label j' t.label = _
    rw [insertElement_eraseChild hkind hlt]
    exact ⟨j, by rw [children_node, getElem?_set_ne (Ne.symm hne), ht], rfl⟩

/-! ### Longer lists -/

lemma appendNulls_list : ∀ {n next : Nat} {v : Value} {buffer spare : Nat},
    v.label.kind = .list buffer spare →
    (∃ us, (appendNulls n next v).1.children = v.children ++ us) ∧
      (n ≤ spare → (appendNulls n next v).1.label.kind = .list buffer (spare - n))
  | 0, next, v, buffer, spare, hkind => ⟨⟨[], by simp [appendNulls]⟩, fun _ => by simpa [appendNulls]⟩
  | n + 1, next, v, buffer, 0, hkind => by
    have hinsert : insertElement next v.children.length (leaf next (.scalar .null)) v =
        (.node { v.label with kind := .list (next + 1) (spareAfterGrowth v.children.length) }
          (v.children ++ [relabel next "" (leaf next (.scalar .null))]), next + 2) := by
      simp [insertElement, hkind]
    unfold appendNulls
    rw [hinsert]
    obtain ⟨⟨us, hus⟩, -⟩ := appendNulls_list (n := n)
      (v := .node { v.label with kind := .list (next + 1) (spareAfterGrowth v.children.length) }
        (v.children ++ [relabel next "" (leaf next (.scalar .null))])) rfl
    refine ⟨⟨relabel next "" (leaf next (.scalar .null)) :: us, ?_⟩, fun hle => absurd hle (by omega)⟩
    rw [hus, children_node, append_assoc, singleton_append]
  | n + 1, next, v, buffer, spare + 1, hkind => by
    have hinsert : insertElement next v.children.length (leaf next (.scalar .null)) v =
        (.node { v.label with kind := .list buffer spare }
          (v.children ++ [relabel next "" (leaf next (.scalar .null))]), next + 1) := by
      simp [insertElement, hkind]
    unfold appendNulls
    rw [hinsert]
    obtain ⟨⟨us, hus⟩, hlabel⟩ := appendNulls_list (n := n)
      (v := .node { v.label with kind := .list buffer spare }
        (v.children ++ [relabel next "" (leaf next (.scalar .null))])) rfl
    refine ⟨⟨relabel next "" (leaf next (.scalar .null)) :: us, ?_⟩, fun hle => ?_⟩
    · rw [hus, children_node, append_assoc, singleton_append]
    · rw [hlabel (by omega)]
      congr 1
      omega

section

variable (htype : v.label.kind.type = some .list)
include htype

lemma getElem?_padTo {t : Value}
    (ht : v.children[j]? = some t) : (padTo size next v).1.children[j]? = some t := by
  obtain ⟨buffer, spare, hkind⟩ := exists_kind_list htype
  obtain ⟨⟨us, hus⟩, -⟩ := appendNulls_list (n := size - v.children.length) hkind
  have hlt := (List.getElem?_eq_some_iff.mp ht).1
  show (appendNulls (size - v.children.length) next v).1.children[j]? = some t
  rw [hus, List.getElem?_append_left hlt, ht]

lemma slot_padTo (hregrows : ¬ Regrows v size) (j : Nat) (b : Label) :
    slot (padTo size next v).1.label j b = slot v.label j b := by
  obtain ⟨buffer, spare, hkind⟩ := exists_kind_list htype
  obtain ⟨-, hlabel⟩ := appendNulls_list (n := size - v.children.length) hkind
  have hle : size - v.children.length ≤ spare := by
    unfold Regrows at hregrows
    rw [hkind] at hregrows
    exact Nat.not_lt.mp hregrows
  have hlabel : (padTo size next v).1.label.kind =
      .list buffer (spare - (size - v.children.length)) := hlabel hle
  unfold slot
  rw [hlabel, hkind]

lemma remains_padTo (j : Nat) :
    Remains v (padTo size next v).1 j := fun _ ht => ⟨j, getElem?_padTo htype ht⟩

end

lemma stays_padTo (next : Nat) (htype : v.label.kind.type = some .list)
    (hregrows : ¬ Regrows v size) (j : Nat) : Stays v (padTo size next v).1 j := fun t ht =>
  ⟨j, getElem?_padTo htype ht, slot_padTo htype hregrows j t.label⟩

lemma getElem?_assignElement {t : Value} (hne : j ≠ i)
    (ht : v.children[j]? = some t) : (assignElement next i content v).children[j]? = some t := by
  show (v.children.set i (relabel next "" content))[j]? = some t
  rw [getElem?_set_ne (Ne.symm hne), ht]

section

variable (htype : v.label.kind.type = some (World.containerType pos))
include htype

lemma remains_placed (hi : indexOf v pos = none) (j : Nat) :
    Remains v (World.place v pos false content next).1 j := by
  cases pos with
  | key key => exact (stays_insertEntry (by rw [htype]; simp [World.containerType]) j).remains
  | index k =>
    intro t ht
    have hlt := (List.getElem?_eq_some_iff.mp ht).1
    have hle := length_le_of_indexOf hi
    exact ⟨j, getElem?_assignElement (by omega) (getElem?_padTo htype ht)⟩

lemma stays_placed (hi : indexOf v pos = none)
    (hregrows : ∀ k, pos = .index k → ¬ Regrows v (k + 1)) (j : Nat) :
    Stays v (World.place v pos false content next).1 j := by
  cases pos with
  | key key => exact stays_insertEntry (by rw [htype]; simp [World.containerType]) j
  | index k =>
    intro t ht
    have hlt := (List.getElem?_eq_some_iff.mp ht).1
    have hle := length_le_of_indexOf hi
    exact ⟨j, getElem?_assignElement (by omega) (getElem?_padTo htype ht),
      slot_padTo htype (hregrows k rfl) j t.label⟩

lemma formed_place {removed : Bool} (h : formed v = true)
    (hcontent : formed content = true) : formed (World.place v pos removed content next).1 = true := by
  cases pos with
  | key key =>
    refine formed_insertEntry h hcontent ?_ next key
    cases hkind : v.label.kind <;> simp [hkind, Kind.type, World.containerType] at htype ⊢
    rfl
  | index i =>
    cases removed with
    | true => exact formed_insertElement h hcontent next i
    | false => exact formed_assignElement (formed_padTo h (i + 1) next) hcontent _ i

/-! ### `SetInternal` as one change -/

end

namespace World

variable {W W' : World} {c : Nat} {a : Addr} {temps : List Value}

/-- What `SetInternal` does to the container `v`, as one change: it drops some references and puts
`v'` in its place. -/
structure SetAt (W W' : World) (c : Nat) (a : Addr) (pos : Position) (content v v' : Value)
    (gone : Addr → Bool) : Prop where
  type : v.label.kind.type = some (containerType pos)
  cell : v'.label.cell = v.label.cell
  formed : formed v = true → formed content = true → formed v' = true
  dropped : ∃ W₀ next dependencies, Dropped W W₀ c gone ∧
    W' = (W₀.replace a v' next).setController c
      { W₀.controller c with dependencyMap := dependencies } ∧
    ∀ p x, (p, x) ∈ (W₀.controller c).dependencyMap → p ≠ rootAddr content →
      x ≠ rootAddr content → (p, x) ∈ dependencies
  /-- The child at the position is replaced, and the references to it are dropped. -/
  replaced : ∀ i b t, childAt v pos = some (i, b, t) → gone b = true ∧
    (t.label.kind.isContainer = true → ∀ x,
      Relation.TransGen (fun p x => (p, x) ∈ (W.controller c).dependencyMap ∧ x ≠ b) b x →
        gone x = true) ∧ ∀ j, j ≠ i → Stays v v' j
  /-- If there was no child at the position, then all children are still there. -/
  added : childAt v pos = none → (∀ j, Remains v v' j) ∧
    ((∀ k, pos = .index k → ¬ Regrows v (k + 1)) → ∀ j, Stays v v' j)

/-- **`SetInternal` is one change of the container**: that it erases a child before it inserts
another one in its place is not seen from outside. -/
theorem Ownership.setAt {pos : Position} {content : Value} {r : Addr × Nat}
    (h : W.Ownership (content :: temps)) (hc : c < W.controllers)
    (hset : W.setInternal c a pos content = .ok (r, W')) :
    ∃ v v' gone i t, findIn slot a forest 0 W.values = some v ∧
      SetAt W W' c a pos content v v' gone ∧ findIn slot a forest 0 W'.values = some v' ∧
      v'.children[i]? = some t ∧ r = (slot v'.label i t.label, t.label.cell) := by
  obtain ⟨removed, W₁, v₁, v', next, i, t, dependencies, hremove, -, -, hfind₁, htype₁, hplace, hbuilt, ht,
    rfl, rfl, hkept⟩ := h.setInternal_parts hc hset
  have hv' : (place v₁ pos removed content W₁.next).1 = v' := by rw [hplace]
  obtain ⟨v, hderef, hcases⟩ := removeInternal_eq_ok hremove
  obtain ⟨hfind, htype⟩ := deref_eq_ok hderef
  have hfind' : findIn slot a forest 0 ((W₁.replace a v' next).setController c
      { W₁.controller c with dependencyMap := dependencies }).values = some v' :=
    findIn_replace hfind₁ hbuilt.cell next
  rcases hcases with ⟨hchild, rfl, rfl⟩ | ⟨k, b, u, W₀, hchild, rfl, hreferences, rfl⟩
  · obtain rfl : v = v₁ := some.inj (hfind.symm.trans hfind₁)
    have hindex := childAt_eq_none hchild
    refine ⟨v, v', fun _ => false, i, t, hfind, ⟨htype, hbuilt.cell, fun hv hcontent => ?_,
      ⟨W₁, next, dependencies, Dropped.refl W₁ c, rfl, hkept⟩, fun k b u hk => ?_, fun _ => ⟨fun j => ?_,
      fun hregrows j => ?_⟩⟩, hfind', ht, rfl⟩
    · rw [← hv']
      exact formed_place htype hv hcontent
    · rw [hchild] at hk
      cases hk
    · rw [← hv']
      exact remains_placed htype hindex j
    · rw [← hv']
      exact stays_placed htype hindex hregrows j
  · obtain ⟨hu, rfl, hindex⟩ := childAt_eq_some hchild
    obtain ⟨w, hw, hinner⟩ := Ownership.exists_innerBlocks hfind (slot_block hu)
    obtain ⟨gone, hdropped, hself, hgone, -⟩ :=
      removeReferences_dropped (h.isOwner_eq_false hw hinner c) hreferences
    have hfind₀ : findIn slot a forest 0 W₀.values = some v := by
      rw [hdropped.values]
      exact hfind
    have herase : (eraseChild k v).label.cell = v.label.cell := rfl
    obtain rfl : eraseChild k v = v₁ :=
      some.inj ((findIn_replace hfind₀ herase W₀.next).symm.trans hfind₁)
    refine ⟨v, v', gone, i, t, hfind, ⟨htype, hbuilt.cell, fun hv hcontent => ?_,
      ⟨W₀, next, dependencies, hdropped, ?_, hkept⟩, fun k' b u' hk' => ?_, fun hnone => ?_⟩, hfind', ht,
      rfl⟩
    · rw [← hv']
      exact formed_place (by rw [type_eraseChild]; exact htype) (formed_eraseChild hv k) hcontent
    · rw [replace_replace hfind₀ herase]
      rfl
    · rw [hchild, some.injEq, Prod.mk.injEq, Prod.mk.injEq] at hk'
      obtain ⟨rfl, rfl, rfl⟩ := hk'
      refine ⟨hself, hgone, fun j hj => ?_⟩
      rw [← hv']
      exact stays_replaced htype hindex hj
    · rw [hchild] at hnone
      cases hnone

end World

end CefCore.Values
