import CefCore.Values.Arrangement
import CefCore.Values.CarefulRuns
import CefCore.Values.Progress

/-!
# Updates of a container

What the setters and `Remove` do to the container of a wrapper, in the states that calls can reach:
they return, the wrapper stays attached, and the container is changed as `setChild` and `eraseChild`
say. A value that is put into it is moved or copied.

## Main results

* `Held.setInternal`, `Held.removeInternal`: what they do.
-/

namespace CefCore.Values.World

open PlacedTree List Option

variable {W W' W₁ : World} {w c c' arg : Nat} {a : Addr} {u v : Value} {pos : Position}
  {temps : List Value}

/-- The wrapper `w` is attached to the container `v` at `a`, in a state with all invariants. -/
structure Held (W : World) (temps : List Value) (w c : Nat) (a : Addr) (v : Value) : Prop where
  ownership : W.Ownership temps
  coherent : W.Coherent temps
  arranged : W.Arranged temps
  attached : (W.wrapper w).attachment = some (c, a)
  found : findIn slot a forest 0 W.values = some v

/-- The wrapper `arg` is attached to another controller than `c`, to a value of its type, and if it
owns the value nothing refers to what is in it. -/
def Given (W : World) (c arg : Nat) (u : Value) : Prop :=
  ∃ c' a', (W.wrapper arg).attachment = some (c', a') ∧ c' ≠ c ∧
    W.deref a' (W.wrapper arg).type = .ok u ∧ W.Bare arg

lemma verify_of_attached {held : List Nat} (h : (W.wrapper w).attachment = some (c, a))
    (hheld : c ∉ held) (modify : Bool) : W.verify held w modify =
      .ok (if (W.wrapper w).readOnly && modify then none else some (c, a, c :: held)) := by
  simp only [verify, h, lock, if_neg hheld, Fallible.pure_eq, bind, Except.bind]
  split <;> rfl

lemma verify_argument (h : (W.wrapper arg).attachment = some (c', a)) (hne : c' ≠ c) :
    W.verify [c] arg false = .ok (some (c', a, [c', c])) := by
  rw [verify_of_attached h (by simpa using hne), Bool.and_false, if_neg Bool.false_ne_true]

lemma verify_of_none {held : List Nat} (h : (W.wrapper w).attachment = none) (modify : Bool) :
    W.verify held w modify = .ok none := by
  simp only [verify, h]
  rfl

lemma Dropped.wrapper_eq {gone : Addr → Bool} (hdropped : Dropped W W' c gone)
    (hr : W.Coherent temps) (hattached : (W.wrapper w).attachment = some (c, a))
    (hgone : gone a = false) : W'.wrapper w = W.wrapper w := by
  rw [hdropped.wrapper w, if_neg]
  intro hmem
  obtain ⟨e, he, rfl⟩ := mem_map.mp hmem
  obtain ⟨he, htrue⟩ := mem_filter.mp he
  have hentry := ((hr.entry_iff c e.1 e.2).mp he).2
  obtain ⟨-, rfl⟩ := Prod.mk.inj (some.inj (hattached.symm.trans hentry))
  rw [hgone] at htrue
  cases htrue

lemma type_setChild (htype : v.label.kind.type = some (containerType pos)) (element : Value)
    (next : Nat) : (setChild v pos element next).1.label.kind.type = v.label.kind.type := by
  cases pos with
  | key key =>
    unfold setChild
    split
    · rename_i i _
      exact type_eraseChild i v
    · rfl
  | index i =>
    obtain ⟨buffer, spare, hkind⟩ := exists_kind_list htype
    obtain ⟨us, buffer', spare', cell, next', hset, -⟩ := setChild_index hkind i element next
    rw [hset, htype]
    rfl

namespace Held

section

variable (h : W.Held temps w c a v)
include h

lemma lt : c < W.controllers := (h.ownership.attached w c a h.attached).2.2

lemma hosted : W.Hosted c a :=
  h.coherent.hosted h.ownership h.attached h.found

lemma registeredAlive : W.RegisteredAlive :=
  h.coherent.registeredAlive h.ownership

lemma sorted : v.Everywhere KeysSorted := by
  obtain ⟨t, ht, hfind, -⟩ := mem_replace h.found
  exact (h.arranged.sorted t (.inl ht)).find slot _ t hfind

lemma found_child {t : Value} {i : Nat} (ht : v.children[i]? = some t) :
    findIn slot (slot v.label i t.label) forest 0 W.values = some t := by
  obtain ⟨t', ht', hfind, -⟩ := mem_replace h.found
  exact h.ownership.findIn_eq ht'
    (find_child slot ht none _ t' (h.ownership.nodup_addrs ht') hfind)

/-! ### `RemoveInternal` and `SetInternal` -/

/-- **`RemoveInternal`** changes nothing if there is no such child, and otherwise it erases it. -/
theorem removeInternal (htype : v.label.kind.type = some (containerType pos)) :
    (childAt v pos = none → W.removeInternal c a pos = .ok (false, W)) ∧
    ∀ i b t, childAt v pos = some (i, b, t) → ∃ W', W.removeInternal c a pos = .ok (true, W') ∧
      W'.wrapper w = W.wrapper w ∧ W'.Held temps w c a (eraseChild i v) := by
  obtain ⟨habsent, hpresent⟩ :=
    removeInternal_returns (c := c) pos h.ownership h.registeredAlive h.found htype
  refine ⟨habsent, fun i b t hchild => ?_⟩
  obtain ⟨_, _, -, -, hremove⟩ := hpresent i b t hchild
  obtain ⟨v', hderef, hcases⟩ := removeInternal_eq_ok hremove
  obtain rfl : v = v' := some.inj (h.found.symm.trans (deref_eq_ok hderef).1)
  rcases hcases with ⟨-, hfalse, -⟩ | ⟨i', b', t', W₁, hchild', -, hreferences, heq⟩
  · cases hfalse
  obtain ⟨rfl, rfl, rfl⟩ : i = i' ∧ b = b' ∧ t = t' := by simpa using hchild.symm.trans hchild'
  obtain ⟨ht, rfl, -⟩ := childAt_eq_some hchild
  obtain ⟨gone, hdropped, -, hgone, -⟩ := h.arranged.removeReferences h.ownership h.found ht hreferences
  have hwrapper := hdropped.wrapper_eq h.coherent h.attached hgone
  refine ⟨_, hremove, ?_, (h.ownership.removeInternal h.lt hremove).1,
    (h.coherent.removeInternal h.ownership h.lt hremove).1,
    h.arranged.removeInternal h.ownership h.coherent h.lt hremove, ?_, ?_⟩
  · rw [heq]
    exact hwrapper
  · rw [heq, ← h.attached]
    exact congrArg Wrapper.attachment hwrapper
  · have hcell : (eraseChild i v).label.cell = v.label.cell := rfl
    rw [heq]
    exact findIn_replace (by rw [hdropped.values]; exact h.found) hcell _

lemma setInternal_returns {content : Value} (htype : v.label.kind.type = some (containerType pos)) :
    ∃ r W', W.setInternal c a pos content = .ok (r, W') := by
  obtain ⟨habsent, hpresent⟩ := h.removeInternal htype
  have hplaced : ∀ next, ∃ t,
      (setChild v pos content next).1.children[(setChild v pos content next).2.2]? = some t := by
    intro next
    obtain ⟨cell, key, hchild⟩ := child_setChild h.sorted htype
    exact ⟨_, hchild⟩
  cases hchild : childAt v pos with
  | none =>
    obtain ⟨t, ht⟩ := hplaced W.next
    rw [setChild, childAt_eq_none hchild] at ht
    simp only [World.setInternal, habsent hchild, deref_of_find h.found htype, bind, Except.bind, ht]
    exact ⟨_, _, rfl⟩
  | some r =>
    obtain ⟨i, b, t⟩ := r
    obtain ⟨W₁, hremove, -, h₁⟩ := hpresent i b t hchild
    obtain ⟨t, ht⟩ := hplaced W₁.next
    rw [setChild, (childAt_eq_some hchild).2.2] at ht
    have htype₁ : (eraseChild i v).label.kind.type = some (containerType pos) := by
      rw [type_eraseChild, htype]
    simp only [World.setInternal, hremove, deref_of_find h₁.found htype₁, bind, Except.bind, ht]
    exact ⟨_, _, rfl⟩

end

/-- **`SetInternal`** makes `setChild` of the container, and returns where the new child is. -/
theorem setInternal {content : Value} (h : W.Held (content :: temps) w c a v)
    (htype : v.label.kind.type = some (containerType pos)) :
    ∃ W' i t, W.setInternal c a pos content =
        .ok ((slot (setChild v pos content W.next).1.label i t.label, t.label.cell), W') ∧
      (setChild v pos content W.next).1.children[i]? = some t ∧ W'.wrapper w = W.wrapper w ∧
      W'.Held temps w c a (setChild v pos content W.next).1 ∧
      ∀ x, W'.wrapper x = W.wrapper x ∨ W'.wrapper x = (W.wrapper x).detach := by
  obtain ⟨r, W', hset⟩ : ∃ r W', W.setInternal c a pos content = .ok (r, W') :=
    h.setInternal_returns htype
  obtain ⟨v₁, W₁, gone, hfind, -, hdropped, hgone, -, heq⟩ :=
    h.arranged.setInternal_parts h.ownership h.coherent h.lt hset
  obtain rfl : v = v₁ := some.inj (h.found.symm.trans hfind)
  obtain ⟨h', -, v', i, t, hfind', ht, rfl⟩ := h.ownership.setInternal h.lt hset
  have hwrapper : W'.wrapper w = W.wrapper w := by
    rw [heq]
    exact hdropped.wrapper_eq h.coherent h.attached hgone
  have hfound : findIn slot a forest 0 W'.values = some (setChild v pos content W.next).1 := by
    rw [heq]
    exact findIn_replace (by rw [hdropped.values]; exact h.found)
      (built_setChild v pos content W.next).cell _
  obtain rfl : v' = (setChild v pos content W.next).1 :=
    some.inj (hfind'.symm.trans hfound)
  refine ⟨W', i, t, hset, ht, hwrapper, ⟨h', (h.coherent.setInternal h.ownership h.lt hset).1,
    h.arranged.setInternal h.ownership h.coherent h.lt hset, by rw [hwrapper, h.attached], hfound⟩,
    fun x => ?_⟩
  rw [heq]
  show W₁.wrapper x = _ ∨ W₁.wrapper x = _
  rw [hdropped.wrapper x]
  split
  · exact .inr rfl
  · exact .inl rfl

/-! ### The value that is put into a container -/

lemma makeLeaf (h : W.Held [] w c a v) (s : Scalar) :
    { W with next := W.next + 1 }.Held [leaf W.next (.scalar s)] w c a v :=
  ⟨h.ownership.makeLeaf s, h.coherent.make h.ownership fun b => count_blocks_leaf b W.next s,
    h.arranged.make h.ownership (Nat.le_succ _) (fun b => count_blocks_leaf b W.next s)
      (.inl ⟨_, rfl⟩), h.attached, h.found⟩

lemma ne_of_given (h : W.Held temps w c a v) (hgiven : W.Given c arg u) : w ≠ arg := by
  rintro rfl
  obtain ⟨c', a', hattached, hne, -⟩ := hgiven
  exact hne (Prod.mk.inj (some.inj (hattached.symm.trans h.attached))).1

lemma detach_returns (h : W.Held [] w c a v) (hgiven : W.Given c arg u)
    (hmode : (W.wrapper arg).mode = .ownerWillDelete) :
    ∃ W', W.copyOrDetachValue [c] arg c = .ok (u, W') := by
  obtain ⟨c', a', hattached, hne, hderef, -⟩ := hgiven
  have hown := (h.ownership.owner_iff c' a' arg).mpr ⟨hmode, hattached⟩
  obtain ⟨t, ht, rfl⟩ := h.ownership.root c' a' arg hown
  -- the value that is found at the address is the whole value
  obtain rfl : u = t := some.inj ((deref_eq_ok hderef).1.symm.trans
    (h.ownership.findIn_eq ht (find_self slot t)))
  have hfind : W.values.find? (fun t => rootAddr t = rootAddr u) = some u := by
    cases hfind : W.values.find? fun t => rootAddr t = rootAddr u with
    | none => exact (find?_eq_none.mp hfind u ht (decide_eq_true rfl)).elim
    | some t =>
      have hroot : rootAddr t = rootAddr u := by simpa using find?_some hfind
      rw [h.ownership.eq_of_rootAddr (mem_of_find?_eq_some hfind) ht hroot]
  have hisOwner : ((W.controller c).takeFrom (W.controller c')).2.isOwner (rootAddr u) = true :=
    CefValueController.isOwner_eq_true_iff.mpr ⟨arg, hown⟩
  unfold World.copyOrDetachValue
  rw [if_pos hmode, verify_argument hattached hne]
  simp only [bind, Except.bind, hfind, World.remove, setController, Function.update_self]
  rw [CefValueController.remove, if_pos hisOwner]
  exact ⟨_, rfl⟩

theorem copyOrDetachValue (h : W.Held [] w c a v) (hgiven : W.Given c arg u) :
    ∃ element W', W.copyOrDetachValue [c] arg c = .ok (element, W') ∧
      content element = content u ∧ W'.wrapper w = W.wrapper w ∧ W'.Held [element] w c a v ∧
      (W'.wrapper arg = (W.wrapper arg).detach ∨
        W'.wrapper arg = W.wrapper arg ∧ (W.wrapper arg).mode ≠ .ownerWillDelete) := by
  have hw := h.ne_of_given hgiven
  have hmem : c ∈ [c] := mem_singleton_self c
  obtain ⟨c', a', hattached, hne, hderef, hbare⟩ := hgiven
  have held : ∀ {element W'}, W.copyOrDetachValue [c] arg c = .ok (element, W') →
      W'.wrapper w = W.wrapper w → (∀ t ∈ W.values, rootAddr t ≠ a' → t ∈ W'.values) →
      W'.Held [element] w c a v := by
    intro element W' hcopy hwrapper hvalues
    have h' := (h.ownership.copyOrDetachValue hmem h.lt hcopy).1
    refine ⟨h', (h.coherent.copyOrDetachValue h.ownership hmem hbare hcopy).1,
      h.arranged.copyOrDetachValue h.ownership hmem hbare hcopy, by rw [hwrapper, h.attached], ?_⟩
    obtain ⟨t, w', ht, howner, hfind⟩ := h.hosted.tree h.ownership h.found
    refine h'.findIn_eq (hvalues t ht fun hroot => hne ?_) hfind
    obtain ⟨w'', howner'⟩ := h.coherent.owner_of_attached h.ownership hattached ht
      (by rw [← hroot]; exact cell_mem_blocks t)
    exact h.ownership.unique c' c _ _ _ howner' howner
  by_cases hmode : (W.wrapper arg).mode = .ownerWillDelete
  · obtain ⟨W', hcopy⟩ := h.detach_returns ⟨c', a', hattached, hne, hderef, hbare⟩ hmode
    obtain ⟨c'', hattached', -, -, hdetached⟩ := copyOrDetachValue_owner hcopy hmode
      (fun c a ha => (h.ownership.isOwner_iff ha).mpr hmode) hmem
    obtain ⟨-, rfl⟩ := Prod.mk.inj (some.inj (hattached.symm.trans hattached'))
    have hwrapper : W'.wrapper w = W.wrapper w := by rw [hdetached.wrapper, if_neg hw]
    refine ⟨u, W', hcopy, rfl, hwrapper, held hcopy hwrapper fun t ht hroot => ?_, .inl ?_⟩
    · rw [hdetached.values]
      exact mem_filter.mpr ⟨ht, decide_eq_true hroot⟩
    · rw [hdetached.wrapper, if_pos rfl]
  · have hcopy : W.copyOrDetachValue [c] arg c =
        .ok ((clone W.next u).1, { W with next := (clone W.next u).2 }) := by
      unfold World.copyOrDetachValue
      rw [if_neg hmode, verify_argument hattached hne]
      simp only [bind, Except.bind, hderef]
      rfl
    exact ⟨_, _, hcopy, content_clone W.next u, rfl, held hcopy rfl fun t ht _ => ht,
      .inr ⟨rfl, hmode⟩⟩

/-! ### References to the children -/

lemma setObjects (h : W.Held temps w c a v) (object : Nat → CefValueImpl) (objects : Nat) :
    { W with object := object, objects := objects }.Held temps w c a v :=
  ⟨h.ownership.setObjects object objects, h.coherent.setObjects object objects,
    h.arranged.setObjects object objects, h.attached, h.found⟩

theorem getOrCreateRef {t : Value} {i : Nat} (h : W.Held temps w c a v)
    (ht : v.children[i]? = some t) (type : ValueType) (readOnly : Bool) :
    ∃ r W', W.getOrCreateRef c type (slot v.label i t.label) a readOnly t.label.cell = (r, W') ∧
      (W'.wrapper r).attachment = some (c, slot v.label i t.label) ∧ W'.values = W.values ∧
      (∀ x < W.wrappers, W'.wrapper x = W.wrapper x) ∧ W'.Held temps w c a v := by
  obtain ⟨u, w', hu, hx, howner⟩ := h.hosted.inner h.ownership h.found (slot_block ht)
  have h' := h.ownership.getOrCreateRef hu hx h.lt type a readOnly t.label.cell
  have hr' := h.coherent.getOrCreateRef h.ownership hu hx howner type a readOnly t.label.cell
  have hA' :=
    h.arranged.getOrCreateRef h.ownership h.hosted h.found ht type readOnly t.label.cell
  rcases getOrCreateRef_cases W c type (slot v.label i t.label) a readOnly t.label.cell with
    ⟨r, hget, heq⟩ | ⟨hfst, href⟩
  · refine ⟨r, W, heq, ?_, rfl, fun _ _ => rfl, h⟩
    rcases CefValueController.get_eq_some hget with hentry | hentry
    · exact ((h.ownership.owner_iff c _ r).mp hentry).2
    · exact ((h.coherent.entry_iff c _ r).mp hentry).2
  · have hkept : ∀ x < W.wrappers, (W.getOrCreateRef c type (slot v.label i t.label) a readOnly
        t.label.cell).2.wrapper x = W.wrapper x := by
      intro x hx
      rw [href.wrapper, if_neg (Nat.ne_of_lt hx)]
    have hw := h.ownership.wrapper_lt w (h.ownership.attached w c a h.attached).1
    refine ⟨_, _, Prod.ext hfst rfl, ?_, href.values, hkept, h', hr', hA', ?_, ?_⟩
    · rw [href.wrapper, if_pos rfl]
    · rw [hkept w hw, h.attached]
    · rw [href.values]
      exact h.found

end Held

lemma destroy_returns {held : List Nat} (h : W.Ownership temps) (halive : W.RegisteredAlive)
    (hnot : ∀ c a, (W.wrapper arg).attachment = some (c, a) →
      c ∉ held ∧ (W.wrapper arg).mode ≠ .ownerWillDelete) :
    ∃ W', W.destroy held arg = .ok W' ∧ W'.values = W.values ∧
      ∀ x, x ≠ arg → W'.wrapper x = W.wrapper x := by
  have hreturns : ∃ W', W.destroy held arg = .ok W' := by
    unfold World.destroy
    cases hattached : (W.wrapper arg).attachment with
    | none =>
      rw [verify_of_none hattached]
      exact ⟨_, rfl⟩
    | some o =>
      obtain ⟨c, a⟩ := o
      obtain ⟨hheld, hmode⟩ := hnot c a hattached
      obtain ⟨W₁, hremove⟩ := remove_returns halive c a false
      have hmode₁ : (W₁.wrapper arg).mode = (W.wrapper arg).mode := by
        rw [(notify_eq_ok hremove).2]
        exact (apply_ite Wrapper.mode _ _ _).trans (ite_self _)
      rw [verify_of_attached hattached hheld, Bool.and_false, if_neg Bool.false_ne_true]
      simp only [bind, Except.bind, hremove, deleteValue, hmode₁, if_neg hmode]
      exact ⟨_, rfl⟩
  obtain ⟨W', hdestroy⟩ := hreturns
  refine ⟨W', hdestroy, ?_⟩
  rcases h.destroy_cases hdestroy with ⟨-, rfl⟩ | ⟨c, a, ha, -, ⟨-, hreleased⟩ | ⟨hmode, -⟩⟩
  · exact ⟨rfl, fun x hx => Function.update_of_ne hx _ _⟩
  · exact ⟨hreleased.values, fun x hx => by rw [hreleased.wrapper, if_neg hx]⟩
  · exact ((hnot c a ha).2 hmode).elim

theorem Held.swapValue {i : Nat} {t : Value} (h : W.Held [] w c a v)
    (ht : v.children[i]? = some t) (hw : w ≠ arg) (hlt : arg < W.wrappers)
    (hnot : ∀ c' a', (W.wrapper arg).attachment = some (c', a') →
      c' ≠ c ∧ (W.wrapper arg).mode ≠ .ownerWillDelete) (o : Nat) (last : Bool) :
    ∃ W', W.swapValue [c] o arg c (slot v.label i t.label) a t.label.cell last = .ok W' ∧
      W'.wrapper w = W.wrapper w ∧ W'.Held [] w c a v := by
  obtain ⟨r, W₁, hget, -, hvalues, hkept, h₁⟩ := h.getOrCreateRef ht (W.wrapper arg).type
    ((W.wrapper arg).type = .binary)
  have hself := h.ownership.wrapper_lt w (h.ownership.attached w c a h.attached).1
  have h₂ := h₁.setObjects (Function.update W₁.object o (.object r)) W₁.objects
  simp only [World.swapValue, hget]
  cases last with
  | false => exact ⟨_, rfl, hkept w hself, h₂⟩
  | true =>
    have hreleased : ∀ c' a', (W₁.wrapper arg).attachment = some (c', a') →
        c' ∉ [c] ∧ (W₁.wrapper arg).mode ≠ .ownerWillDelete := by
      intro c' a' ha
      rw [hkept arg hlt] at ha ⊢
      exact ⟨by simpa using (hnot c' a' ha).1, (hnot c' a' ha).2⟩
    obtain ⟨W', hdestroy, hvalues', hwrapper⟩ :=
      destroy_returns h₂.ownership h₂.registeredAlive hreleased
    refine ⟨W', hdestroy, (hwrapper w hw).trans (hkept w hself), ?_, ?_, ?_, ?_, ?_⟩
    · exact h₂.ownership.destroy hdestroy
    · exact h₂.coherent.destroy h₂.ownership hdestroy
    · exact h₂.arranged.destroy h₂.ownership hdestroy
    · rw [hwrapper w hw, h₂.attached]
    · rw [hvalues']
      exact h₂.found

end CefCore.Values.World
