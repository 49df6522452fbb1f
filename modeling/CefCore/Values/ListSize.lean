import CefCore.Foundations.Loop
import CefCore.Values.Content
import CefCore.Values.Progress

/-!
# `SetSize`

`CefListValueImpl::SetSize` with the loop that shrinks the list as it is in the source. Its index is
a `size_t` that counts down and is compared with the requested size, so it is always at least 0: for
the size 0 the loop goes on with the largest `size_t` after the last element has been removed, and
never ends.

## Main results

* `setSize_resizes_iff`: for all other sizes it ends, and the list has the size.
-/

namespace CefCore.Values.World

open PlacedTree List Fallible Nat

variable {W W' : World} {w c : Nat} {a : Addr} {temps : List Value}

/-- `--i` for a `size_t`. -/
def decrement (i : Nat) : Nat := if i = 0 then 2 ^ 64 - 1 else i - 1

/-- One iteration, from an index and a world to the next ones. -/
def ShrinkBody (c : Nat) (a : Addr) (s s' : Nat × World) : Prop :=
  (∃ removed, s.2.removeInternal c a (.index s.1) = .ok (removed, s'.2)) ∧ s'.1 = decrement s.1

/-- `for (size_t i = …; i >= size; --i) RemoveInternal(i);` -/
def ShrinkLoop (c : Nat) (a : Addr) (size : Nat) : Nat × World → Nat × World → Prop :=
  Loop.Ends (fun s => size ≤ s.1) (ShrinkBody c a)

/-- A call of `SetSize` that returns `r`. -/
def SetSizeEnds (W : World) (w size : Nat) (r : Bool) (W' : World) : Prop :=
  W.verify [] w true = .ok none ∧ r = false ∧ W' = W ∨
  ∃ c a held v, W.verify [] w true = .ok (some (c, a, held)) ∧ W.deref a .list = .ok v ∧ r = true ∧
    if size < v.children.length then
      ∃ i, ShrinkLoop c a size (v.children.length - 1, W) (i, W')
    else W' = W.replace a (padTo size W.next v).1 (padTo size W.next v).2

/-- The list has the requested size: its first elements are the same, the further ones are null, and
the wrappers of the elements that it does not have any more are detached. -/
structure Resized (W W' : World) (a : Addr) (v : Value) (size : Nat) : Prop where
  elements : ∃ v', W'.deref a .list = .ok v' ∧ v'.children.length = size ∧
    v'.children.take v.children.length = v.children.take size ∧
    ∀ t ∈ v'.children.drop v.children.length, content t = .scalar .null
  detached : ∀ i t, size ≤ i → v.children[i]? = some t → ∀ w c,
    (W.wrapper w).attachment = some (c, slot v.label i t.label) → (W'.wrapper w).attachment = none

/-! ### The loop -/

lemma not_shrinkLoop_zero (s : Nat × World) : ¬ ∃ t, ShrinkLoop c a 0 s t :=
  Loop.not_ends (I := fun _ => True) (fun s _ => zero_le s.1) (fun _ _ _ _ => trivial) trivial

/-- For the other sizes the index does not wrap around.

**Proof sketch.** Induction on the number of elements above the size; each of them is one
iteration. -/
lemma shrinkLoop_iff {m i : Nat} : ∀ {n : Nat} {W : World},
    ShrinkLoop c a (m + 1) (m + n, W) (i, W') ↔ i = m ∧ shrink c a (m + 1) n W = .ok W'
  | 0, W => by
    constructor
    · intro h
      cases h with
      | exit _ => exact ⟨rfl, rfl⟩
      | next hguard _ _ => exact absurd hguard (not_succ_le_self m)
    · rintro ⟨rfl, hshrink⟩
      cases hshrink
      exact .exit (not_succ_le_self i)
  | n + 1, W => by
    have hindex : decrement (m + (n + 1)) = m + n := by
      rw [decrement, if_neg (by omega)]
      omega
    have hsize : m + 1 + n = m + (n + 1) := by omega
    constructor
    · intro h
      cases h with
      | exit hguard => exact absurd (show m + 1 ≤ m + (n + 1) by omega) hguard
      | @next _ s _ _ hbody hrest =>
        obtain ⟨j, W₁⟩ := s
        obtain ⟨⟨removed, hremove⟩, hj⟩ := hbody
        obtain rfl : j = m + n := hj.trans hindex
        obtain ⟨rfl, hshrink⟩ := shrinkLoop_iff.mp hrest
        refine ⟨rfl, bind_eq_ok_iff.mpr ⟨(removed, W₁), ?_, hshrink⟩⟩
        rw [hsize]
        exact hremove
    · rintro ⟨rfl, hshrink⟩
      obtain ⟨⟨removed, W₁⟩, hremove, hshrink⟩ := bind_eq_ok_iff.mp hshrink
      rw [hsize] at hremove
      have hrest : ShrinkLoop c a (i + 1) (i + n, W₁) (i, W') := shrinkLoop_iff.mpr ⟨rfl, hshrink⟩
      exact .next (show i + 1 ≤ i + (n + 1) by omega) ⟨⟨removed, hremove⟩, hindex.symm⟩ hrest

theorem setSize_eq_ok_iff {size : Nat} {r : Bool} :
    W.setSize w size = .ok (r, W') ↔ W.SetSizeEnds w size r W' := by
  unfold setSize SetSizeEnds
  cases hverify : W.verify [] w true with
  | error e => simp [bind, Except.bind]
  | ok lock =>
    obtain _ | ⟨c, a, held⟩ := lock
    · simp [bind, Except.bind, pure, Except.pure, eq_comm]
    cases hderef : W.deref a .list with
    | error e => simp [bind, Except.bind, hderef]
    | ok v =>
      have hcall : (∃ c' a' held' v', (Except.ok (some (c, a, held)) :
          Except Fault (Option (Nat × Addr × List Nat))) = .ok (some (c', a', held')) ∧
          W.deref a' .list = .ok v' ∧ r = true ∧ if size < v'.children.length then
            ∃ i, ShrinkLoop c' a' size (v'.children.length - 1, W) (i, W')
          else W' = W.replace a' (padTo size W.next v').1 (padTo size W.next v').2) ↔
          r = true ∧ if size < v.children.length then
            ∃ i, ShrinkLoop c a size (v.children.length - 1, W) (i, W')
          else W' = W.replace a (padTo size W.next v).1 (padTo size W.next v).2 := by
        constructor
        · rintro ⟨c', a', held', v', heq, hv', hr, h⟩
          obtain ⟨rfl, rfl, rfl⟩ : c = c' ∧ a = a' ∧ held = held' := by simpa using heq
          obtain rfl := Except.ok.inj (hderef.symm.trans hv')
          exact ⟨hr, h⟩
        · rintro ⟨hr, h⟩
          exact ⟨c, a, held, v, rfl, hderef, hr, h⟩
      rw [hcall]
      by_cases hlt : size < v.children.length
      · obtain _ | m := size
        · have hnot : ¬ ∃ i, ShrinkLoop c a 0 (v.children.length - 1, W) (i, W') :=
            fun ⟨i, h⟩ => not_shrinkLoop_zero _ ⟨_, h⟩
          simp [bind, Except.bind, hderef, hlt, hnot]
        · have hindex : v.children.length - 1 = m + (v.children.length - (m + 1)) := by omega
          have hloop : (∃ i, ShrinkLoop c a (m + 1) (v.children.length - 1, W) (i, W')) ↔
              shrink c a (m + 1) (v.children.length - (m + 1)) W = .ok W' := by
            rw [hindex]
            simp only [shrinkLoop_iff]
            exact ⟨fun ⟨_, _, h⟩ => h, fun h => ⟨m, rfl, h⟩⟩
          rw [if_pos hlt, hloop]
          simp [bind, Except.bind, hderef, hlt, Except.pure, pure]
          cases shrink c a (m + 1) (v.children.length - (m + 1)) W <;> simp [eq_comm]
      · simp [bind, Except.bind, hderef, hlt, pure, Except.pure, eq_comm]

/-! ### The result -/

/-- The iterations for the elements above the size: they all go through.

**Proof sketch.** Each of them erases the last element of the list and detaches the wrapper that is
registered for its slot; the slots of the others stay what they are. -/
lemma shrink_returns {size buffer : Nat} : ∀ {n : Nat} {W : World} {v : Value} {spare : Nat},
    W.Ownership temps → W.RegisteredAlive → c < W.controllers →
    findIn slot a forest 0 W.values = some v → v.label.kind = .list buffer spare →
    v.children.length = size + n →
    ∃ W' v', shrink c a size n W = .ok W' ∧ W'.deref a .list = .ok v' ∧
      v'.children = v.children.take size ∧
      (∀ w, (W.wrapper w).attachment = none → (W'.wrapper w).attachment = none) ∧
      ∀ i w, size ≤ i → i < size + n → (⟨buffer, i⟩, w) ∈ (W.controller c).referenceMap →
        (W'.wrapper w).attachment = none
  | 0, W, v, spare, h, halive, hc, hfind, hkind, hlength => by
    refine ⟨W, v, rfl, deref_of_find hfind (by simp [hkind, Kind.type]), ?_, fun w hw => hw,
      fun i w hle hlt => absurd hlt (by omega)⟩
    rw [take_of_length_le (by omega)]
  | n + 1, W, v, spare, h, halive, hc, hfind, hkind, hlength => by
    have htype : v.label.kind.type = some .list := by simp [hkind, Kind.type]
    obtain ⟨t, ht⟩ : ∃ t, v.children[size + n]? = some t :=
      ⟨_, getElem?_eq_getElem (by omega)⟩
    have hslot : slot v.label (size + n) t.label = ⟨buffer, size + n⟩ := by simp [slot, hkind]
    have hchild : childAt v (.index (size + n)) = some (size + n, ⟨buffer, size + n⟩, t) := by
      have hindex : indexOf v (.index (size + n)) = some (size + n) := if_pos (by omega)
      simp [childAt, hindex, ht, hslot]
    obtain ⟨W₁, gone, hdropped, hgone, hremove⟩ :=
      (removeInternal_returns (.index (size + n)) (c := c) h halive hfind htype).2 _ _ _ hchild
    obtain ⟨h₁, hcontrollers⟩ := h.removeInternal hc hremove
    have hfind₁ : findIn slot a forest 0
        (W₁.replace a (eraseChild (size + n) v) W₁.next).values =
          some (eraseChild (size + n) v) := by
      refine findIn_replace (v := v) ?_ (by rfl) _
      rw [hdropped.values]
      exact hfind
    have herased : (eraseChild (size + n) v).children = v.children.take (size + n) := by
      show v.children.eraseIdx (size + n) = _
      rw [eraseIdx_eq_take_drop_succ, drop_of_length_le (by omega), append_nil]
    have hlength₁ : (eraseChild (size + n) v).children.length = size + n := by
      rw [herased, length_take]
      omega
    have halive₁ : W₁.RegisteredAlive := halive.dropped hdropped
    have hkind₁ : (eraseChild (size + n) v).label.kind = .list buffer (spare + 1) := by
      simp [eraseChild, hkind]
    obtain ⟨W', v', hshrink, hderef, hchildren, hnone, hdetached⟩ := shrink_returns h₁ halive₁
      (by rw [hcontrollers]; exact hc) hfind₁ hkind₁ hlength₁
    refine ⟨W', v', ?_, hderef, ?_, fun w hw => hnone w ?_, fun i w hle hlt hentry => ?_⟩
    · exact bind_eq_ok_iff.mpr ⟨_, hremove, hshrink⟩
    · rw [hchildren, herased, take_take, min_eq_left (le_add_right _ _)]
    · show (W₁.wrapper w).attachment = none
      rw [hdropped.wrapper]
      split
      · rfl
      · exact hw
    · cases hg : gone ⟨buffer, i⟩ with
      | true =>
        refine hnone w ?_
        show (W₁.wrapper w).attachment = none
        rw [hdropped.wrapper, if_pos]
        · rfl
        · exact mem_map.mpr ⟨_, mem_filter.mpr ⟨hentry, hg⟩, rfl⟩
      | false =>
        have hne : i ≠ size + n := by
          rintro rfl
          rw [hgone] at hg
          cases hg
        refine hdetached i w hle (by omega) ?_
        show _ ∈ (W₁.controller c).referenceMap
        rw [hdropped.references]
        exact mem_filter.mpr ⟨hentry, by simp [hg]⟩

lemma Coherent.element_registered {v t : Value} {i w' c' : Nat} (hr : W.Coherent temps)
    (h : W.Ownership temps) (ha : (W.wrapper w).attachment = some (c, a))
    (hfind : findIn slot a forest 0 W.values = some v) (ht : v.children[i]? = some t)
    (hattached : (W.wrapper w').attachment = some (c', slot v.label i t.label)) :
    (slot v.label i t.label, w') ∈ (W.controller c).referenceMap := by
  obtain ⟨u, w₁, hu, hinner, howner⟩ := (hr.hosted h ha hfind).inner h hfind (slot_block ht)
  obtain ⟨w₂, howner'⟩ :=
    hr.owner_of_attached h hattached hu (mem_blocks_of_mem_innerBlocks hinner)
  obtain rfl := h.unique c' c _ _ _ howner' howner
  refine (hr.entry_iff c' _ w').mpr ⟨?_, hattached⟩
  cases hmode : (W.wrapper w').mode with
  | reference => rfl
  | ownerNoDelete => exact ((h.attached w' c' _ hattached).2.1 hmode).elim
  | ownerWillDelete =>
    have hself := (h.isOwner_iff hattached).mpr hmode
    rw [h.isOwner_eq_false hu hinner c'] at hself
    cases hself

/-- **When `SetSize` does what it is for.** In every state that calls reach which give values away
only while nothing refers to what is in them, for every list that can be changed and every size: the
call returns and the list is resized if and only if the size is not 0 or the list is empty already. -/
theorem setSize_resizes_iff {ops : List Op} {v : Value} (size : Nat)
    (halong : Transition.Along call TransfersBare World.new ops)
    (hrun : ops.foldlM call World.new = some W) (ha : (W.wrapper w).attachment = some (c, a))
    (hwritable : (W.wrapper w).readOnly = false) (hv : W.deref a .list = .ok v) :
    (∃ W', W.SetSizeEnds w size true W' ∧ Resized W W' a v size) ↔ size ≠ 0 ∨ v.children = [] := by
  obtain ⟨h, hr⟩ := coherent_of_along halong hrun
  obtain ⟨hfind, htype⟩ := deref_eq_ok hv
  obtain ⟨buffer, spare, hkind⟩ := exists_kind_list htype
  have hverify : W.verify [] w true = .ok (some (c, a, [c])) := by
    simp [verify, ha, lock, hwritable, pure, bind, Except.pure, Except.bind]
  constructor
  · rintro ⟨W', ⟨hnone, -, -⟩ | ⟨c', a', held, v', hsome, hv', -, hends⟩, -⟩
    · rw [hverify] at hnone
      cases hnone
    · obtain ⟨rfl, rfl, rfl⟩ : c = c' ∧ a = a' ∧ [c] = held := by
        simpa [hverify] using hsome
      obtain rfl := Except.ok.inj (hv.symm.trans hv')
      by_contra hcond
      obtain ⟨rfl, hne⟩ := not_or.mp hcond |>.imp not_not.mp id
      rw [if_pos (length_pos_iff.mpr hne)] at hends
      obtain ⟨i, hloop⟩ := hends
      exact not_shrinkLoop_zero _ ⟨_, hloop⟩
  · intro hcond
    by_cases hlt : size < v.children.length
    · -- the list gets shorter, and the size is not 0
      obtain ⟨m, rfl⟩ : ∃ m, size = m + 1 := by
        refine exists_eq_succ_of_ne_zero fun hzero => ?_
        rcases hcond with hne | hempty
        · exact hne hzero
        · simp [hempty] at hlt
      obtain ⟨W', v', hshrink, hderef, hchildren, -, hdetached⟩ := shrink_returns
        h (hr.registeredAlive h) (h.attached w c a ha).2.2 hfind hkind
        (show v.children.length = m + 1 + (v.children.length - (m + 1)) by omega)
      have hindex : v.children.length - 1 = m + (v.children.length - (m + 1)) := by omega
      refine ⟨W', .inr ⟨c, a, [c], v, hverify, hv, rfl, ?_⟩, ⟨v', hderef, ?_, ?_, ?_⟩, ?_⟩
      · rw [if_pos hlt, hindex]
        exact ⟨m, shrinkLoop_iff.mpr ⟨rfl, hshrink⟩⟩
      · rw [hchildren, length_take]
        omega
      · rw [hchildren, take_take, min_eq_right (le_of_lt hlt)]
      · rw [hchildren, drop_of_length_le (by rw [length_take]; omega)]
        simp
      · intro i t hle ht w' c' hattached
        have hregistered := hr.element_registered h ha hfind ht hattached
        have hi := (List.getElem?_eq_some_iff.mp ht).1
        rw [show slot v.label i t.label = ⟨buffer, i⟩ by simp [slot, hkind]] at hregistered
        exact hdetached i w' hle (by omega) hregistered
    · -- the list gets longer
      obtain ⟨us, hchildren, hlength, hnull, htype'⟩ := padTo_contents size W.next htype
      have hfind' : findIn slot a forest 0
          (W.replace a (padTo size W.next v).1 (padTo size W.next v).2).values =
            some (padTo size W.next v).1 :=
        findIn_replace hfind (built_padTo size W.next v).cell _
      refine ⟨_, .inr ⟨c, a, [c], v, hverify, hv, rfl, ?_⟩, ⟨_, deref_of_find hfind' htype', ?_, ?_,
        ?_⟩, ?_⟩
      · rw [if_neg hlt]
      · rw [hchildren, length_append, hlength]
        omega
      · rw [hchildren, take_left, take_of_length_le (by omega)]
      · rw [hchildren, drop_left]
        exact hnull
      · intro i t hle ht
        have hi := (List.getElem?_eq_some_iff.mp ht).1
        omega

/-- A list with two elements is cut to one. -/
theorem setSize_resizes_one : ∃ W v,
    [Op.create .list [], .setSize 0 2].foldlM call World.new = some W ∧ W.deref ⟨0, 0⟩ .list = .ok v ∧
      ∃ W', W.SetSizeEnds 0 1 true W' ∧ Resized W W' ⟨0, 0⟩ v 1 := by
  have hsome : ([Op.create .list [], .setSize 0 2].foldlM call World.new).isSome = true := by
    decide +kernel
  obtain ⟨W, hrun⟩ := Option.isSome_iff_exists.mp hsome
  obtain rfl := Option.some.inj (hrun.symm.trans rfl)
  exact ⟨_, _, hrun, rfl, (setSize_resizes_iff 1 (by decide +kernel) hrun rfl rfl rfl).mpr
    (.inl (by decide))⟩

/-- `SetSize(0)` on a list with an element does not return. -/
theorem setSize_zero_runs_forever : ¬ ∀ (ops : List Op) (W : World) (w c size : Nat) (a : Addr)
    (v : Value), ops.foldlM call World.new = some W → (W.wrapper w).attachment = some (c, a) →
      (W.wrapper w).readOnly = false → W.deref a .list = .ok v →
      ∃ W', W.SetSizeEnds w size true W' ∧ Resized W W' a v size := by
  intro hall
  obtain ⟨W', hends, -⟩ := hall [.create .list [], .setScalar 0 (.index 0) .null] _ 0 0 0 _ _ rfl rfl
    rfl rfl
  have hset := setSize_eq_ok_iff.mpr hends
  cases hset

end CefCore.Values.World
