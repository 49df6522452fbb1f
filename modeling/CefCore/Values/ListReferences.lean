import CefCore.Values.CarefulRuns

/-!
# Wrappers of the elements of a list

A controller registers the wrapper of an element under the address of the element. The address
changes when an element in front is erased and when the list grows over its capacity, and the
controller is not told.

## Main results

* `Tended.step`: a call keeps them attached.
-/

namespace CefCore.Values.World

open PlacedTree List Option Fallible Nat CefValueController Function

variable {W W' W₁ : World} {c l : Nat} {a b : Addr} {temps : List Value}

/-- The wrapper, if it is attached, is attached to the slot of the element that it was made for. -/
def DenotesElement (W : World) (a : Addr) (w : Nat) : Prop :=
  ∀ o ∈ (W.wrapper w).attachment, ∃ v ∈ findIn slot a forest 0 W.values,
    ∃ i < v.children.length, ∃ t ∈ v.children[i]?,
      o.2 = slot v.label i t.label ∧ t.label.cell = (W.wrapper w).element

/-- The list `v` at `a`, in a buffer: the wrappers that are attached to slots of the buffer are
registered with the controller `c`, and were made for the elements that are there; and only such
wrappers are registered for these slots, and only with `c`. -/
structure ElementsOf (W : World) (c : Nat) (a : Addr) (v : Value) (buffer spare : Nat) : Prop where
  find : findIn slot a forest 0 W.values = some v
  kind : v.label.kind = .list buffer spare
  attached : ∀ w c' x, (W.wrapper w).mode = .reference → (W.wrapper w).attachment = some (c', x) →
    x.block = buffer → c' = c ∧ (x, w) ∈ (W.controller c).referenceMap ∧
      ∃ t, v.children[x.offset]? = some t ∧ t.label.cell = (W.wrapper w).element
  registered : ∀ c' x w, (x, w) ∈ (W.controller c').referenceMap → x.block = buffer →
    c' = c ∧ (W.wrapper w).attachment = some (c, x)

/-- There is a list at `a`, and the wrappers for its elements are right. -/
def ElementsAttached (W : World) (c : Nat) (a : Addr) : Prop :=
  ∃ v buffer spare, W.ElementsOf c a v buffer spare

/-! ### A wrapper is registered once -/

def RegisteredOnce (W : World) : Prop := ∀ c c' x x' w, (x, w) ∈ (W.controller c).referenceMap →
  (x', w) ∈ (W.controller c').referenceMap → c = c' ∧ x = x'

namespace RegisteredOnce

lemma of_subset (h : W.RegisteredOnce)
    (hsub : ∀ c, ∀ e ∈ (W'.controller c).referenceMap, e ∈ (W.controller c).referenceMap) :
    W'.RegisteredOnce := fun c c' x x' w hx hx' => h c c' x x' w (hsub c _ hx) (hsub c' _ hx')

lemma setObjects (h : W.RegisteredOnce) (object : Nat → CefValueImpl) (objects : Nat) :
    { W with object := object, objects := objects }.RegisteredOnce :=
  h.of_subset fun _ _ he => he

lemma dropped {gone : Addr → Bool} (h : W.RegisteredOnce) (hdropped : Dropped W W' c gone) :
    W'.RegisteredOnce := by
  refine h.of_subset fun c' e he => ?_
  by_cases heq : c' = c
  · subst heq
    rw [hdropped.references] at he
    exact mem_of_mem_filter he
  · rwa [hdropped.others c' heq] at he

variable {w : Nat}

section

variable (h : W.RegisteredOnce)
include h

lemma detached {n : Nat} {v : Value} (hcn : c ≠ n)
    (hdetached : Detached W W' w c n v) : W'.RegisteredOnce := by
  -- the entries of `c` are with `n` now, and nowhere else
  have hwhere : ∀ c' e, e ∈ (W'.controller c').referenceMap →
      ∃ c'', e ∈ (W.controller c'').referenceMap ∧ c' = if c'' = c then n else c'' := by
    intro c' e he
    by_cases hc : c' = c
    · rw [hc, hdetached.left] at he
      simp [CefValueController.new] at he
    · by_cases hn : c' = n
      · rw [hn, hdetached.taken] at he
        rcases mem_takeFrom he with he | he
        · exact ⟨n, he, by rw [if_neg (Ne.symm hcn), hn]⟩
        · exact ⟨c, he, by rw [if_pos rfl, hn]⟩
      · rw [hdetached.others c' hn hc] at he
        exact ⟨c', he, by rw [if_neg hc]⟩
  intro c₁ c₂ x x' w' hx hx'
  obtain ⟨d₁, hd₁, rfl⟩ := hwhere c₁ _ hx
  obtain ⟨d₂, hd₂, rfl⟩ := hwhere c₂ _ hx'
  obtain ⟨rfl, rfl⟩ := h d₁ d₂ x x' w' hd₁ hd₂
  exact ⟨rfl, rfl⟩

lemma newReference {x parent : Addr} {new : Wrapper}
    (hW : W.Ownership temps) (href : NewReference W W' c x parent new) : W'.RegisteredOnce := by
  have hwhere : ∀ c' e, e ∈ (W'.controller c').referenceMap →
      c' = c ∧ e = (x, W.wrappers) ∨ e ∈ (W.controller c').referenceMap := by
    intro c' e he
    by_cases hc : c' = c
    · subst hc
      rw [href.references] at he
      rcases mem_cons.mp he with rfl | he
      · exact .inl ⟨rfl, rfl⟩
      · exact .inr he
    · rw [href.others c' hc] at he
      exact .inr he
  intro c₁ c₂ y y' w hy hy'
  rcases hwhere c₁ _ hy with ⟨rfl, heq⟩ | hy <;> rcases hwhere c₂ _ hy' with ⟨rfl, heq'⟩ | hy'
  · exact ⟨rfl, congrArg Prod.fst (heq.trans heq'.symm)⟩
  · have hlt := (hW.holder c₂ _ hy').1
    rw [congrArg Prod.snd heq] at hlt
    exact absurd hlt (lt_irrefl _)
  · have hlt := (hW.holder c₁ _ hy).1
    rw [congrArg Prod.snd heq'] at hlt
    exact absurd hlt (lt_irrefl _)
  · exact h c₁ c₂ y y' w hy hy'

lemma getOrCreateRef (hW : W.Ownership temps) (c : Nat) (type : ValueType)
    (x parent : Addr) (readOnly : Bool) (element : Nat) :
    (W.getOrCreateRef c type x parent readOnly element).2.RegisteredOnce := by
  rcases getOrCreateRef_cases W c type x parent readOnly element with ⟨w, -, heq⟩ | ⟨-, href⟩
  · rwa [heq]
  · exact h.newReference hW href

lemma removeInternal {pos : Position} {removed : Bool}
    (hW : W.Ownership temps) (hremove : W.removeInternal c a pos = .ok (removed, W')) :
    W'.RegisteredOnce := by
  obtain ⟨v, hderef, ⟨-, -, rfl⟩ | ⟨i, b, t, W₁, hchild, -, hreferences, rfl⟩⟩ :=
    removeInternal_eq_ok hremove
  · exact h
  · obtain ⟨ht, rfl, -⟩ := childAt_eq_some hchild
    obtain ⟨u, hu, hinner⟩ := Ownership.exists_innerBlocks (deref_eq_ok hderef).1 (slot_block ht)
    obtain ⟨gone, hdropped, -⟩ :=
      removeReferences_dropped (hW.isOwner_eq_false hu hinner c) hreferences
    exact (h.dropped hdropped).of_subset fun _ _ he => he

lemma setInternal {pos : Position} {content : Value} {r : Addr × Nat}
    (hW : W.Ownership (content :: temps)) (hc : c < W.controllers)
    (hset : W.setInternal c a pos content = .ok (r, W')) : W'.RegisteredOnce := by
  obtain ⟨removed, W₁, v, v', next, i, t, dependencies, hremove, -, -, -, -, -, -, -, -, rfl, -⟩ :=
    hW.setInternal_parts hc hset
  refine (h.removeInternal hW hremove).of_subset fun c' e he => ?_
  by_cases heq : c' = c
  · subst heq
    simpa [setController, update_self] using he
  · simpa [setController, update_of_ne heq, World.replace] using he

lemma copyOrDetachValue {held : List Nat} {n : Nat} {v : Value}
    (hW : W.Ownership temps) (hn : n ∈ held) (hcopy : W.copyOrDetachValue held w n = .ok (v, W')) :
    W'.RegisteredOnce := by
  by_cases hmode : (W.wrapper w).mode = .ownerWillDelete
  · obtain ⟨c, -, hcn, -, hdetached⟩ := copyOrDetachValue_owner hcopy hmode
      (fun c a ha => (hW.isOwner_iff ha).mpr hmode) hn
    exact h.detached hcn hdetached
  · obtain ⟨next, rfl, -⟩ := copyOrDetachValue_copy hcopy hmode
    exact h

lemma destroy {held : List Nat} (hW : W.Ownership temps)
    (hdestroy : W.destroy held w = .ok W') : W'.RegisteredOnce := by
  refine h.of_subset fun c' e he => ?_
  rcases hW.destroy_cases hdestroy with
    ⟨-, rfl⟩ | ⟨c, a, -, -, ⟨-, hreleased⟩ | ⟨-, hdeleted⟩⟩
  · exact he
  · by_cases heq : c' = c
    · subst heq
      rw [hreleased.references] at he
      exact mem_of_mem_filter he
    · rwa [hreleased.others c' heq] at he
  · by_cases heq : c' = c
    · rw [heq, hdeleted.left] at he
      simp [CefValueController.new] at he
    · rwa [hdeleted.others c' heq] at he

end

lemma shrink {size : Nat} : ∀ {n : Nat} {W : World}, W.RegisteredOnce → W.Ownership temps →
    c < W.controllers → World.shrink c a size n W = .ok W' → W'.RegisteredOnce
  | 0, W, h, _, _, hshrink => by
    cases hshrink
    exact h
  | n + 1, W, h, hW, hc, hshrink => by
    obtain ⟨⟨r, W₁⟩, hremove, hshrink⟩ := bind_eq_ok_iff.mp hshrink
    obtain ⟨hW₁, hcontrollers⟩ := hW.removeInternal hc hremove
    exact shrink (h.removeInternal hW hremove) hW₁ (by rw [hcontrollers]; exact hc) hshrink

/-- **Every call keeps wrappers registered once.** -/
theorem step {op : Op} (h : W.RegisteredOnce) (hW : W.Ownership [])
    (hstep : W.step op = .ok W') : W'.RegisteredOnce := by
  cases step_effect hstep with
  | objects op object objects => exact h.setObjects object objects
  | owner op type hle hcount hformed =>
    refine h.of_subset fun c e he => ?_
    by_cases heq : c = W.controllers
    · subst heq
      simp [World.newOwner, CefValueController.setOwner, CefValueController.new] at he
    · simpa [World.newOwner, heq] using he
  | reference op hw hv ht type readOnly object objects =>
    exact (h.getOrCreateRef hW _ type _ _ readOnly _).setObjects object objects
  | assign s hop hw hset =>
    have h₁ : { W with next := W.next + 1 }.RegisteredOnce := h.of_subset fun _ _ he => he
    exact h₁.setInternal (hW.makeLeaf s) (hW.attached _ _ _ hw).2.2 hset
  | @transfer _ w arg c a pos content r W₁ W₂ _ hop harg hw hcopy hset hswap =>
    have hc := (hW.attached _ _ _ hw).2.2
    obtain ⟨hW₁, hcontrollers₁⟩ := hW.copyOrDetachValue mem_cons_self hc hcopy
    rw [← hcontrollers₁] at hc
    obtain ⟨hW₂, hcontrollers₂, v, i, t, hv, ht, rfl⟩ := hW₁.setInternal hc hset
    have h₂ := (h.copyOrDetachValue hW mem_cons_self hcopy).setInternal hW₁ hc hset
    rcases hswap with rfl | ⟨o, last, hswap⟩
    · exact h₂
    · obtain ⟨type, readOnly, object, hcases⟩ := swapValue_cases hswap
      obtain ⟨u, hu, hinner⟩ := Ownership.exists_innerBlocks hv (slot_block ht)
      have hW₃ := (hW₂.getOrCreateRef hu hinner (by rw [hcontrollers₂]; exact hc) type a readOnly
        t.label.cell).setObjects object
          (W₂.getOrCreateRef c type (slot v.label i t.label) a readOnly t.label.cell).2.objects
      have h₃ := (h₂.getOrCreateRef hW₂ c type (slot v.label i t.label) a readOnly
        t.label.cell).setObjects object
        (W₂.getOrCreateRef c type (slot v.label i t.label) a readOnly t.label.cell).2.objects
      rcases hcases with rfl | hdestroy
      · exact h₃
      · exact h₃.destroy hW₃ hdestroy
  | remove hw hremove => exact h.removeInternal hW hremove
  | clear hw hremove hv =>
    obtain ⟨gone, hdropped, -⟩ := removeDependencies_dropped hremove
    exact (h.dropped hdropped).of_subset fun _ _ he => he
  | shrink hw hv htype hshrink => exact h.shrink hW (hW.attached _ _ _ hw).2.2 hshrink
  | grow hw hv htype hsize => exact h.of_subset fun _ _ he => he
  | destroy hdestroy => exact h.destroy hW hdestroy

theorem run {ops : List Op} (h : ops.foldlM call World.new = some W) : W.RegisteredOnce := by
  have hinvariant := Transition.run_invariant (I := fun W => W.Ownership [] ∧ W.RegisteredOnce)
    (fun _ _ _ hW hcall => ⟨hW.1.step (call_eq_some hcall), hW.2.step hW.1 (call_eq_some hcall)⟩)
    ⟨Ownership.new, by simp [RegisteredOnce, World.new, CefValueController.new]⟩ h
  exact hinvariant.2

end RegisteredOnce

/-! ### What a change may do to registered elements -/

/-- The wrapper has been made for an element of the list at `a`, and denotes it while it is
attached. -/
structure Faithful (W : World) (a : Addr) (w : Nat) : Prop where
  lt : w < W.wrappers
  mode : (W.wrapper w).mode = .reference
  denotes : W.DenotesElement a w

/-- The registry of `W'` is the one of `W` without some references, whose wrappers are detached. In
the slots of the buffer, which belong to the controller `c`, exactly the attached wrappers are left. -/
structure Fewer (W W' : World) (c buffer : Nat) : Prop where
  wrappers : W.wrappers ≤ W'.wrappers
  mode : ∀ w < W.wrappers, (W'.wrapper w).mode = (W.wrapper w).mode
  wrapper : ∀ w < W.wrappers, ∀ o, (W'.wrapper w).attachment = some o → W'.wrapper w = W.wrapper w
  unused : ∀ w, W.wrappers ≤ w → (W'.wrapper w).mode = .reference → (W'.wrapper w).attachment = none
  references : ∀ c', ∀ e ∈ (W'.controller c').referenceMap, ∃ c'', e ∈ (W.controller c'').referenceMap
  slots : ∀ c', ∀ e ∈ (W'.controller c').referenceMap, e.1.block = buffer →
    e ∈ (W.controller c').referenceMap
  kept : ∀ e ∈ (W.controller c).referenceMap, e.1.block = buffer →
    (e ∈ (W'.controller c).referenceMap ↔ (W'.wrapper e.2).attachment = some (c, e.1))

/-- What a call leaves as it is: the wrappers of elements denote these, and the wrapper `l` is not
attached anew. -/
structure Follows (W W' : World) (a : Addr) (l : Nat) : Prop where
  faithful : ∀ w, W.Faithful a w → W'.Faithful a w
  wrappers : W.wrappers ≤ W'.wrappers
  mode : l < W.wrappers → (W'.wrapper l).mode = (W.wrapper l).mode
  attachment : l < W.wrappers → ∀ o, (W'.wrapper l).attachment = some o →
    (W.wrapper l).attachment = some o

lemma Follows.refl (W : World) (a : Addr) (l : Nat) : Follows W W a l :=
  ⟨fun _ h => h, le_refl _, fun _ => rfl, fun _ _ h => h⟩

lemma Follows.trans {W₂ : World} (h : Follows W W₁ a l) (h' : Follows W₁ W₂ a l) :
    Follows W W₂ a l :=
  ⟨fun w hw => h'.faithful w (h.faithful w hw), le_trans h.wrappers h'.wrappers,
    fun hl => (h'.mode (lt_of_lt_of_le hl h.wrappers)).trans (h.mode hl),
    fun hl o ho => h.attachment hl o (h'.attachment (lt_of_lt_of_le hl h.wrappers) o ho)⟩

section Elements

variable {v v' : Value} {buffer spare buffer' spare' : Nat}

/-- **A changed list**: if it has its old buffer, or one that was not in use before, and if the
elements that are still registered are still in their slots, then all that is attached is right.

**Proof sketch.** Nothing is attached to a buffer that was not in use. What is attached to the old
one was attached before. -/
theorem Fewer.elements (hfewer : Fewer W W' c buffer) (h : W.Ownership temps)
    (hE : W.ElementsOf c a v buffer spare) (hfind : findIn slot a forest 0 W'.values = some v')
    (hkind : v'.label.kind = .list buffer' spare') (hbuffer : buffer' = buffer ∨ W.next ≤ buffer')
    (hstays : ∀ j t w, v.children[j]? = some t →
      (⟨buffer, j⟩, w) ∈ (W'.controller c).referenceMap →
      buffer' = buffer ∧ v'.children[j]? = some t) :
    W'.ElementsOf c a v' buffer' spare' ∧ Follows W W' a l := by
  have hold : ∀ w c' x, (W'.wrapper w).mode = .reference → (W'.wrapper w).attachment = some (c', x) →
      W'.wrapper w = W.wrapper w := by
    intro w c' x hmode hx
    rcases lt_or_ge w W.wrappers with hlt | hge
    · exact hfewer.wrapper w hlt _ hx
    · rw [hfewer.unused w hge hmode] at hx
      cases hx
  refine ⟨⟨hfind, hkind, fun w c' x hmode hx hblock => ?_, fun c' x w hx hblock => ?_⟩,
    fun w hw => ⟨?_, ?_, ?_⟩, hfewer.wrappers, hfewer.mode l, fun hl o ho => ?_⟩
  · have hsame := hold w c' x hmode hx
    rw [hsame] at hmode hx ⊢
    have hblock' : x.block = buffer := by
      rcases hbuffer with heq | hle
      · rw [hblock, heq]
      · have hlt := (h.inner w c' x hmode hx).1
        omega
    obtain ⟨rfl, hmem, t, ht, hcell⟩ := hE.attached w c' x hmode hx hblock'
    have hmem' := (hfewer.kept _ hmem hblock').mpr (by rw [hsame]; exact hx)
    have hx' : x = ⟨buffer, x.offset⟩ := by rw [← hblock']
    rw [hx'] at hmem'
    exact ⟨rfl, by rw [hx']; exact hmem', t, (hstays _ t w ht hmem').2, hcell⟩
  · have hblock' : x.block = buffer := by
      rcases hbuffer with heq | hle
      · rw [hblock, heq]
      · obtain ⟨c'', hx''⟩ := hfewer.references c' _ hx
        have hlt := (h.key c'' _ hx'').1
        dsimp only at hlt
        omega
    have hx' := hfewer.slots c' _ hx hblock'
    obtain ⟨rfl, -⟩ := hE.registered c' x w hx' hblock'
    exact ⟨rfl, (hfewer.kept _ hx' hblock').mp hx⟩
  · exact lt_of_lt_of_le hw.lt hfewer.wrappers
  · rw [hfewer.mode w hw.lt]
    exact hw.mode
  · rintro ⟨c', x⟩ hx
    have hsame := hfewer.wrapper w hw.lt _ hx
    have hx₀ : (W.wrapper w).attachment = some (c', x) := by rw [← hsame]; exact hx
    obtain ⟨u, hu, i, hi, t, ht, hslot, hcell⟩ := hw.denotes (c', x) hx₀
    obtain rfl := some.inj (hE.find.symm.trans hu)
    have hslot : x = slot v.label i t.label := hslot
    obtain rfl : x = ⟨buffer, i⟩ := by rw [hslot, slot, hE.kind]
    obtain ⟨rfl, hmem, -⟩ := hE.attached w c' _ hw.mode hx₀ rfl
    have hmem' := (hfewer.kept _ hmem rfl).mpr hx
    obtain ⟨rfl, ht'⟩ := hstays i t w ht hmem'
    refine ⟨v', hfind, i, (List.getElem?_eq_some_iff.mp ht').1, t, ht', ?_, ?_⟩
    · rw [slot, hkind]
    · rw [hsame]
      exact hcell
  · rw [← hfewer.wrapper l hl o ho]
    exact ho

lemma Fewer.same (hfewer : Fewer W W' c buffer) (h : W.Ownership temps)
    (hE : W.ElementsOf c a v buffer spare) (hfind : findIn slot a forest 0 W'.values = some v) :
    W'.ElementsOf c a v buffer spare ∧ Follows W W' a l :=
  hfewer.elements h hE hfind hE.kind (.inl rfl) fun _ _ _ ht _ => ⟨rfl, ht⟩

lemma Dropped.fewer {gone : Addr → Bool} (hdropped : Dropped W W₁ c gone) (h : W.Ownership temps)
    (honce : W.RegisteredOnce) (hE : W.ElementsOf c a v buffer spare)
    (hwrapper : W'.wrapper = W₁.wrapper)
    (hwrappers : W'.wrappers = W₁.wrappers)
    (hreferences : ∀ c', (W'.controller c').referenceMap = (W₁.controller c').referenceMap) :
    Fewer W W' c buffer := by
  have hmem : ∀ c' e, e ∈ (W'.controller c').referenceMap ↔
      e ∈ (W.controller c').referenceMap ∧ (c' = c → gone e.1 = false) := by
    intro c' e
    rw [hreferences]
    by_cases heq : c' = c
    · subst heq
      simp [hdropped.references]
    · simp [hdropped.others c' heq, heq]
  have hsame : ∀ w o, (W'.wrapper w).attachment = some o → W'.wrapper w = W.wrapper w := by
    intro w o ho
    rw [hwrapper, hdropped.wrapper w] at ho ⊢
    split
    · rename_i hw
      rw [if_pos hw] at ho
      cases ho
    · rfl
  refine ⟨?_, fun w _ => ?_, fun w _ => hsame w, fun w hw hmode => ?_, fun c' e he => ?_,
    fun c' e he _ => ((hmem c' e).mp he).1, fun e he hblock => ?_⟩
  · rw [hwrappers, hdropped.wrappers]
  · rw [hwrapper, hdropped.wrapper w]
    split <;> rfl
  · cases hattached : (W'.wrapper w).attachment with
    | none => rfl
    | some o =>
      rw [hsame w o hattached, h.attachment_eq_none hw] at hattached
      cases hattached
  · exact ⟨c', ((hmem c' e).mp he).1⟩
  · obtain ⟨x, w⟩ := e
    obtain ⟨-, hattached⟩ := hE.registered c x w he hblock
    rw [hmem]
    constructor
    · rintro ⟨-, hgone⟩
      rw [hwrapper, hdropped.wrapper w, if_neg ?_]
      · exact hattached
      · -- the wrapper is registered for this slot only
        intro hw
        obtain ⟨⟨x', w'⟩, he', rfl⟩ := mem_map.mp hw
        obtain ⟨he', hgone'⟩ := mem_filter.mp he'
        obtain ⟨-, rfl⟩ := honce c c x x' w' he he'
        rw [hgone rfl] at hgone'
        cases hgone'
    · intro ho
      refine ⟨he, fun _ => ?_⟩
      by_contra hgone
      rw [Bool.not_eq_false] at hgone
      rw [hwrapper, hdropped.wrapper w, if_pos ?_] at ho
      · cases ho
      · exact mem_map.mpr ⟨(x, w), mem_filter.mpr ⟨he, hgone⟩, rfl⟩

lemma fewer_newOwner {u : Value} (h : W.Ownership temps) (hc : c < W.controllers)
    (hE : W.ElementsOf c a v buffer spare) (type : ValueType) (next : Nat) :
    Fewer W (W.newOwner type u next) c buffer := by
  have hwrapper : ∀ w, w ≠ W.wrappers → (W.newOwner type u next).wrapper w = W.wrapper w :=
    fun w hw => update_of_ne hw _ _
  have hmem : ∀ c' e, e ∈ ((W.newOwner type u next).controller c').referenceMap →
      e ∈ (W.controller c').referenceMap := by
    intro c' e he
    by_cases heq : c' = W.controllers
    · subst heq
      simp [World.newOwner, CefValueController.setOwner, CefValueController.new] at he
    · simpa [World.newOwner, heq] using he
  refine ⟨le_succ _, fun w hw => ?_, fun w hw _ _ => ?_, fun w hw hmode => ?_,
    fun c' e he => ⟨c', hmem c' e he⟩, fun c' e he _ => hmem c' e he, fun e he hblock => ?_⟩
  · rw [hwrapper w (Nat.ne_of_lt hw)]
  · exact hwrapper w (Nat.ne_of_lt hw)
  · by_cases heq : w = W.wrappers
    · subst heq
      simp [World.newOwner] at hmode
    · rw [hwrapper w heq]
      exact h.attachment_eq_none hw
  · have hcontroller : (W.newOwner type u next).controller c = W.controller c :=
      update_of_ne (Nat.ne_of_lt hc) _ _
    rw [hcontroller, hwrapper e.2 (Nat.ne_of_lt (h.holder c e he).1)]
    exact iff_of_true he (hE.registered c e.1 e.2 he hblock).2

variable {w : Nat}

lemma Released.fewer {c' : Nat} {x : Addr} (hreleased : Released W W' w c' x)
    (h : W.Ownership temps) (hE : W.ElementsOf c a v buffer spare)
    (hmode : (W.wrapper w).mode = .reference) (hw : (W.wrapper w).attachment = some (c', x)) :
    Fewer W W' c buffer := by
  have hwrapper : ∀ w', w' ≠ w → W'.wrapper w' = W.wrapper w' := fun w' hne => by
    rw [hreleased.wrapper w', if_neg hne]
  have hself : (W'.wrapper w).attachment = none := by
    rw [hreleased.wrapper w, if_pos rfl]
    rfl
  have hne : ∀ w' o, (W'.wrapper w').attachment = some o → w' ≠ w := by
    rintro w' o ho rfl
    rw [hself] at ho
    cases ho
  have hmem : ∀ d e, e ∈ (W'.controller d).referenceMap ↔
      e ∈ (W.controller d).referenceMap ∧ (d = c' → e.1 ≠ x) := by
    intro d e
    by_cases heq : d = c'
    · subst heq
      simp [hreleased.references]
    · simp [hreleased.others d heq, heq]
  refine ⟨le_of_eq hreleased.wrappers.symm, fun w' _ => ?_, fun w' _ o ho => ?_,
    fun w' hw' _ => ?_, fun d e he => ⟨d, ((hmem d e).mp he).1⟩, fun d e he _ => ((hmem d e).mp he).1,
    fun e he hblock => ?_⟩
  · by_cases heq : w' = w
    · rw [heq, hreleased.wrapper w, if_pos rfl]
      rfl
    · rw [hwrapper w' heq]
  · exact hwrapper w' (hne w' o ho)
  · by_cases heq : w' = w
    · rw [heq, hself]
    · rw [hwrapper w' heq]
      exact h.attachment_eq_none hw'
  · obtain ⟨y, w'⟩ := e
    have hblock : y.block = buffer := hblock
    obtain ⟨-, hattached⟩ := hE.registered c y w' he hblock
    rw [hmem]
    constructor
    · rintro ⟨-, hyx⟩
      rw [hwrapper w' ?_]
      · exact hattached
      · rintro rfl
        obtain ⟨rfl, rfl⟩ := Prod.mk.inj (some.inj (hw.symm.trans hattached))
        exact hyx rfl rfl
    · intro ho
      refine ⟨he, ?_⟩
      rintro rfl rfl
      -- the released wrapper is the one that is registered for its slot
      obtain ⟨-, hmem', -⟩ := hE.attached w c y hmode hw hblock
      have heq := inj_on_of_nodup_map (h.nodup c) he hmem' rfl
      exact hne w' _ ho (congrArg Prod.snd heq)

lemma Detached.fewer {c' : Nat} {u : Value} (hdetached : Detached W W' w c' c u) (hne : c' ≠ c)
    (h : W.Ownership temps) (hE : W.ElementsOf c a v buffer spare)
    (hmode : (W.wrapper w).mode = .ownerWillDelete) : Fewer W W' c buffer := by
  have hwrapper : ∀ w', w' ≠ w → W'.wrapper w' = W.wrapper w' := fun w' hw' => by
    rw [hdetached.wrapper w', if_neg hw']
  have hself : W'.wrapper w = (W.wrapper w).detach := by
    rw [hdetached.wrapper w, if_pos rfl]
  have hsource : ∀ d e, e ∈ (W'.controller d).referenceMap → e ∈ (W.controller d).referenceMap ∨
      d = c ∧ e ∈ (W.controller c').referenceMap := by
    intro d e he
    by_cases hd : d = c'
    · rw [hd, hdetached.left] at he
      simp [CefValueController.new] at he
    · by_cases hdc : d = c
      · subst hdc
        rw [hdetached.taken] at he
        rcases mem_takeFrom he with he | he
        · exact .inl he
        · exact .inr ⟨rfl, he⟩
      · rw [hdetached.others d hdc hd] at he
        exact .inl he
  refine ⟨le_of_eq hdetached.wrappers.symm, fun w' _ => ?_, fun w' _ o ho => ?_,
    fun w' hw' _ => ?_, fun d e he => ?_, fun d e he hblock => ?_, fun e he hblock => ?_⟩
  · by_cases heq : w' = w
    · rw [heq, hself]
      rfl
    · rw [hwrapper w' heq]
  · refine hwrapper w' ?_
    rintro rfl
    rw [hself] at ho
    cases ho
  · by_cases heq : w' = w
    · rw [heq, hself]
      rfl
    · rw [hwrapper w' heq]
      exact h.attachment_eq_none hw'
  · rcases hsource d e he with he | ⟨-, he⟩
    · exact ⟨d, he⟩
    · exact ⟨c', he⟩
  · rcases hsource d e he with he' | ⟨-, he'⟩
    · exact he'
    · exact absurd (hE.registered c' e.1 e.2 he' hblock).1 hne
  · have hw : e.2 ≠ w := by
      rintro rfl
      have hreference := (h.holder c e he).2
      rw [hmode] at hreference
      cases hreference
    rw [hdetached.taken, hwrapper e.2 hw]
    exact iff_of_true (mem_takeFrom_of_mem he) (hE.registered c e.1 e.2 he hblock).2

lemma fewer_setWrapper {x : Wrapper} (h : W.Ownership temps)
    (hE : W.ElementsOf c a v buffer spare) (hw : (W.wrapper w).attachment = none)
    (hx : x.attachment = none) (hmode : x.mode = (W.wrapper w).mode) :
    Fewer W (W.setWrapper w x) c buffer := by
  have hwrapper : ∀ w', w' ≠ w → (W.setWrapper w x).wrapper w' = W.wrapper w' :=
    fun w' hne => update_of_ne hne _ _
  have hself : (W.setWrapper w x).wrapper w = x := update_self _ _ _
  refine ⟨le_refl _, fun w' _ => ?_, fun w' _ o ho => ?_, fun w' hw' _ => ?_,
    fun d e he => ⟨d, he⟩, fun d e he _ => he, fun e he hblock => ?_⟩
  · by_cases heq : w' = w
    · rw [heq, hself, hmode]
    · rw [hwrapper w' heq]
  · refine hwrapper w' ?_
    rintro rfl
    rw [hself, hx] at ho
    cases ho
  · by_cases heq : w' = w
    · rw [heq, hself, hx]
    · rw [hwrapper w' heq]
      exact h.attachment_eq_none hw'
  · have hattached := (hE.registered c e.1 e.2 he hblock).2
    have hne : e.2 ≠ w := by
      intro heq
      rw [heq, hw] at hattached
      cases hattached
    rw [hwrapper e.2 hne]
    exact iff_of_true he hattached

lemma fewer_of_eq (h : W.Ownership temps) (hE : W.ElementsOf c a v buffer spare)
    (hcontroller : W'.controller = W.controller) (hwrapper : W'.wrapper = W.wrapper)
    (hwrappers : W'.wrappers = W.wrappers) : Fewer W W' c buffer := by
  refine ⟨le_of_eq hwrappers.symm, fun w _ => by rw [hwrapper], fun w _ _ _ => by rw [hwrapper],
    fun w hw _ => ?_, fun d e he => ⟨d, ?_⟩, fun d e he _ => ?_, fun e he hblock => ?_⟩
  · rw [hwrapper]
    exact h.attachment_eq_none hw
  · rwa [hcontroller] at he
  · rwa [hcontroller] at he
  · rw [hcontroller, hwrapper]
    exact iff_of_true he (hE.registered c e.1 e.2 he hblock).2

/-- **A wrapper for an element**: a new one is registered for the slot of the element and denotes it,
and one that is there already does. -/
lemma ElementsOf.getOrCreateRef {t : Value} {i : Nat} (hE : W.ElementsOf c a v buffer spare)
    (h : W.Ownership temps) (ht : v.children[i]? = some t) (type : ValueType) (parent : Addr)
    (readOnly : Bool) :
    let r := W.getOrCreateRef c type (slot v.label i t.label) parent readOnly t.label.cell
    r.2.ElementsOf c a v buffer spare ∧ Follows W r.2 a l ∧ r.2.Faithful a r.1 := by
  intro r
  have hslot : slot v.label i t.label = ⟨buffer, i⟩ := by rw [slot, hE.kind]
  have hi := (List.getElem?_eq_some_iff.mp ht).1
  rcases getOrCreateRef_cases W c type (slot v.label i t.label) parent readOnly t.label.cell with
    ⟨w, hget, heq⟩ | ⟨hr, href⟩
  · obtain ⟨u, hu, hinner⟩ := Ownership.exists_innerBlocks hE.find (slot_block ht)
    have hunowned := h.isOwner_eq_false hu hinner c
    have hmem : (slot v.label i t.label, w) ∈ (W.controller c).referenceMap := by
      rcases get_eq_some hget with howner | hmem
      · exact absurd howner (isOwner_eq_false_iff.mp hunowned w)
      · exact hmem
    obtain ⟨hlt, hmode⟩ := h.holder c _ hmem
    obtain ⟨-, hattached⟩ := hE.registered c _ w hmem (by rw [hslot])
    obtain ⟨-, -, t', ht', hcell⟩ := hE.attached w c _ hmode hattached (by rw [hslot])
    rw [hslot] at ht'
    obtain rfl := some.inj (ht.symm.trans ht')
    have hr : r = (w, W) := heq
    rw [hr]
    refine ⟨hE, Follows.refl W a l, hlt, hmode, fun o ho => ?_⟩
    obtain rfl := some.inj (hattached.symm.trans ho)
    exact ⟨v, hE.find, i, hi, t, ht, rfl, hcell⟩
  · have hwrapper : ∀ w, w ≠ W.wrappers → r.2.wrapper w = W.wrapper w := fun w hw => by
      rw [href.wrapper w, if_neg hw]
    have hnew : r.2.wrapper W.wrappers =
        ⟨type, .reference, readOnly, some (c, slot v.label i t.label), true, t.label.cell⟩ := by
      rw [href.wrapper W.wrappers, if_pos rfl]
    have hfind : findIn slot a forest 0 r.2.values = some v := by
      rw [href.values]
      exact hE.find
    have hold : ∀ e ∈ (W.controller c).referenceMap, e ∈ (r.2.controller c).referenceMap :=
      fun e he => by
        rw [href.references]
        exact mem_cons_of_mem _ he
    refine ⟨⟨hfind, hE.kind, fun w c' x hmode hx hblock => ?_, fun c' x w hx hblock => ?_⟩,
      ⟨fun w hw => ⟨?_, ?_, fun o ho => ?_⟩, ?_, fun hl => ?_, fun hl o ho => ?_⟩, ?_, ?_,
      fun o ho => ?_⟩
    · by_cases heq : w = W.wrappers
      · subst heq
        rw [hnew] at hx ⊢
        cases hx
        refine ⟨rfl, ?_, t, ?_, rfl⟩
        · rw [href.references]
          exact mem_cons_self
        · rw [hslot]
          exact ht
      · rw [hwrapper w heq] at hmode hx ⊢
        obtain ⟨rfl, hmem, hcell⟩ := hE.attached w c' x hmode hx hblock
        exact ⟨rfl, hold _ hmem, hcell⟩
    · by_cases hc' : c' = c
      · subst hc'
        rw [href.references] at hx
        rcases mem_cons.mp hx with hx | hx
        · cases hx
          exact ⟨rfl, by rw [hnew]⟩
        · obtain ⟨-, hattached⟩ := hE.registered c' x w hx hblock
          rw [hwrapper w (Nat.ne_of_lt (h.holder c' _ hx).1)]
          exact ⟨rfl, hattached⟩
      · rw [href.others c' hc'] at hx
        exact absurd (hE.registered c' x w hx hblock).1 hc'
    · rw [href.wrappers]
      exact lt_succ_of_lt hw.lt
    · rw [hwrapper w (Nat.ne_of_lt hw.lt)]
      exact hw.mode
    · rw [hwrapper w (Nat.ne_of_lt hw.lt)] at ho ⊢
      rw [href.values]
      exact hw.denotes o ho
    · rw [href.wrappers]
      exact le_succ _
    · rw [hwrapper l (Nat.ne_of_lt hl)]
    · rwa [hwrapper l (Nat.ne_of_lt hl)] at ho
    · rw [hr, href.wrappers]
      exact lt_succ_self _
    · rw [hr, hnew]
    · rw [hr, hnew] at ho ⊢
      cases ho
      exact ⟨v, hfind, i, hi, t, ht, rfl, rfl⟩

end Elements

/-! ### The buffer of a longer list -/

variable {buffer spare : Nat} {v : Value}

lemma buffer_insertElement (next i : Nat) (content : Value)
    (hkind : v.label.kind = .list buffer spare) : ∃ buffer' spare',
      (insertElement next i content v).1.label.kind = .list buffer' spare' ∧
        (buffer' = buffer ∨ next ≤ buffer') ∧ next ≤ (insertElement next i content v).2 := by
  unfold insertElement
  rw [hkind]
  cases spare with
  | zero => exact ⟨next + 1, _, rfl, .inr (le_succ _), le_add_right _ _⟩
  | succ spare => exact ⟨buffer, spare, rfl, .inl rfl, le_succ _⟩

lemma buffer_appendNulls : ∀ (n next : Nat) {v : Value} {buffer spare : Nat},
    v.label.kind = .list buffer spare → ∃ buffer' spare',
      (appendNulls n next v).1.label.kind = .list buffer' spare' ∧
        (buffer' = buffer ∨ next ≤ buffer')
  | 0, next, v, buffer, spare, hkind => ⟨buffer, spare, hkind, .inl rfl⟩
  | n + 1, next, v, buffer, spare, hkind => by
    obtain ⟨buffer₁, spare₁, hkind₁, hbuffer₁, hnext⟩ :=
      buffer_insertElement next v.children.length (leaf next (.scalar .null)) hkind
    obtain ⟨buffer₂, spare₂, hkind₂, hbuffer₂⟩ := buffer_appendNulls n
      (insertElement next v.children.length (leaf next (.scalar .null)) v).2 hkind₁
    refine ⟨buffer₂, spare₂, hkind₂, ?_⟩
    rcases hbuffer₂ with rfl | hle
    · exact hbuffer₁
    · exact .inr (le_trans hnext hle)

lemma buffer_place (content : Value) (i next : Nat) (removed : Bool)
    (hkind : v.label.kind = .list buffer spare) : ∃ buffer' spare',
      (place v (.index i) removed content next).1.label.kind = .list buffer' spare' ∧
        (buffer' = buffer ∨ next ≤ buffer') := by
  cases removed with
  | true =>
    obtain ⟨buffer', spare', hkind', hbuffer', -⟩ :=
      buffer_insertElement next i content hkind
    exact ⟨buffer', spare', hkind', hbuffer'⟩
  | false =>
    obtain ⟨buffer', spare', hkind', hbuffer'⟩ :=
      buffer_appendNulls (i + 1 - v.children.length) next hkind
    exact ⟨buffer', spare', hkind', hbuffer'⟩

lemma buffer_setInternal {content : Value} {i : Nat} {r : Addr × Nat}
    (h : W.Ownership (content :: temps)) (hc : c < W.controllers)
    (hfind : findIn slot a forest 0 W.values = some v) (hkind : v.label.kind = .list buffer spare)
    (hset : W.setInternal c a (.index i) content = .ok (r, W')) : ∃ v' buffer' spare',
      findIn slot a forest 0 W'.values = some v' ∧ v'.label.kind = .list buffer' spare' ∧
        (buffer' = buffer ∨ W.next ≤ buffer') := by
  obtain ⟨removed, W₁, v₁, v', next, k, t, dependencies, hremove, -, -, hfind₁, -, hplace, hbuilt, -,
    -, rfl, -⟩ := h.setInternal_parts hc hset
  have hv' : (place v₁ (.index i) removed content W₁.next).1 = v' := by rw [hplace]
  -- an erased element leaves the buffer as it is
  have hkind₁ : W₁.next = W.next ∧ ∃ spare₁, v₁.label.kind = .list buffer spare₁ := by
    obtain ⟨u, hderef, hcases⟩ := removeInternal_eq_ok hremove
    obtain rfl := some.inj (hfind.symm.trans (deref_eq_ok hderef).1)
    rcases hcases with ⟨-, -, rfl⟩ | ⟨j, b, s, W₀, hchild, -, hreferences, rfl⟩
    · obtain rfl := some.inj (hfind.symm.trans hfind₁)
      exact ⟨rfl, spare, hkind⟩
    · obtain ⟨hs, rfl, -⟩ := childAt_eq_some hchild
      obtain ⟨u, hu, hinner⟩ := Ownership.exists_innerBlocks hfind (slot_block hs)
      obtain ⟨gone, hdropped, -⟩ :=
        removeReferences_dropped (h.isOwner_eq_false hu hinner c) hreferences
      have hfind₀ : findIn slot a forest 0 W₀.values = some v := by
        rw [hdropped.values]
        exact hfind
      have herase : (eraseChild j v).label.cell = v.label.cell := rfl
      obtain rfl := some.inj ((findIn_replace hfind₀ herase W₀.next).symm.trans hfind₁)
      refine ⟨hdropped.next, spare + 1, ?_⟩
      simp [eraseChild, hkind]
  obtain ⟨hnext, spare₁, hkind₁⟩ := hkind₁
  obtain ⟨buffer', spare', hkind', hbuffer'⟩ :=
    buffer_place content i W₁.next removed hkind₁
  rw [hv'] at hkind'
  rw [hnext] at hbuffer'
  exact ⟨v', buffer', spare', findIn_replace hfind₁ hbuilt.cell next, hkind', hbuffer'⟩

/-! ### The methods of the list -/

/-- Nothing is registered for the elements of the list from an index on. -/
def Unregistered (W : World) (c : Nat) (v : Value) (first : Nat) : Prop :=
  ∀ j < v.children.length, first ≤ j → ∀ t ∈ v.children[j]?, ¬ W.Registered c (slot v.label j t.label)

instance (W : World) (c : Nat) (v : Value) (first : Nat) : Decidable (W.Unregistered c v first) :=
  inferInstanceAs (Decidable (∀ j < v.children.length, _ → ∀ t ∈ v.children[j]?, ¬ _))

/-- A state between the calls of a method, which has `temps` in its hands: the list at `a` and the
wrappers for its elements are in order. -/
structure Tended (W : World) (temps : List Value) (c : Nat) (a : Addr) : Prop where
  ownership : W.Ownership temps
  once : W.RegisteredOnce
  controller : c < W.controllers
  elements : W.ElementsAttached c a

namespace Tended

variable {i : Nat} {v : Value}

lemma lt_of_unregistered {t : Value} {buffer spare first j w : Nat}
    (hkind : v.label.kind = .list buffer spare) (hun : W.Unregistered c v first)
    (ht : v.children[j]? = some t) (hw : (⟨buffer, j⟩, w) ∈ (W.controller c).referenceMap) :
    j < first := by
  by_contra hle
  refine hun j (List.getElem?_eq_some_iff.mp ht).1 (not_lt.mp hle) t ht ?_
  rw [slot, hkind]
  exact mem_map.mpr ⟨_, hw, rfl⟩

lemma removeInternal {removed : Bool} (hT : W.Tended temps c a)
    (hun : ∀ v, findIn slot a forest 0 W.values = some v → W.Unregistered c v (i + 1))
    (hremove : W.removeInternal c a (.index i) = .ok (removed, W')) :
    W'.Tended temps c a ∧ Follows W W' a l := by
  obtain ⟨v, buffer, spare, hE⟩ := hT.elements
  obtain ⟨hW', hcontrollers⟩ := hT.ownership.removeInternal hT.controller hremove
  have honce' := hT.once.removeInternal hT.ownership hremove
  have hc' : c < W'.controllers := by rw [hcontrollers]; exact hT.controller
  obtain ⟨u, hderef, hcases⟩ := removeInternal_eq_ok hremove
  obtain rfl := some.inj (hE.find.symm.trans (deref_eq_ok hderef).1)
  rcases hcases with ⟨-, -, rfl⟩ | ⟨k, b, t, W₁, hchild, -, hreferences, rfl⟩
  · exact ⟨hT, Follows.refl W' a l⟩
  · obtain ⟨ht, rfl, hindex⟩ := childAt_eq_some hchild
    obtain rfl := indexOf_index hindex
    obtain ⟨u, hu, hinner⟩ := Ownership.exists_innerBlocks hE.find (slot_block ht)
    obtain ⟨gone, hdropped, hself, -⟩ :=
      removeReferences_dropped (hT.ownership.isOwner_eq_false hu hinner c) hreferences
    have hfind₁ : findIn slot a forest 0 W₁.values = some v := by
      rw [hdropped.values]
      exact hE.find
    have hkind' : (eraseChild i v).label.kind = .list buffer (spare + 1) := by
      simp [eraseChild, hE.kind]
    have hfewer : Fewer W (W₁.replace a (eraseChild i v) W₁.next) c buffer :=
      hdropped.fewer hT.ownership hT.once hE rfl rfl fun _ => rfl
    obtain ⟨hE', hfollows⟩ := hfewer.elements (l := l) hT.ownership hE
      (findIn_replace hfind₁ (by rfl) W₁.next) hkind' (.inl rfl) fun j s w hs hw => by
        refine ⟨rfl, ?_⟩
        -- what is registered still is in front of the erased element
        have hentry : (⟨buffer, j⟩, w) ∈ (W₁.controller c).referenceMap := hw
        rw [hdropped.references, mem_filter] at hentry
        obtain ⟨hentry, hstays⟩ := hentry
        have hlt := lt_of_unregistered hE.kind (hun v hE.find) hs hentry
        have hne : j ≠ i := by
          rintro rfl
          have hslot : slot v.label j t.label = ⟨buffer, j⟩ := by rw [slot, hE.kind]
          rw [hslot] at hself
          rw [hself] at hstays
          cases hstays
        show (v.children.eraseIdx i)[j]? = some s
        rw [getElem?_eraseIdx_of_lt (by omega), hs]
    exact ⟨⟨hW', honce', hc', _, _, _, hE'⟩, hfollows⟩

lemma setInternal {content : Value} {r : Addr × Nat} (hT : W.Tended (content :: temps) c a)
    (hun : ∀ v, findIn slot a forest 0 W.values = some v → Regrows v (i + 1) → W.Unregistered c v 0)
    (hset : W.setInternal c a (.index i) content = .ok (r, W')) :
    W'.Tended temps c a ∧ Follows W W' a l := by
  obtain ⟨v, buffer, spare, hE⟩ := hT.elements
  obtain ⟨hW', hcontrollers, -⟩ := hT.ownership.setInternal hT.controller hset
  have honce' := hT.once.setInternal hT.ownership hT.controller hset
  obtain ⟨v', buffer', spare', hfind', hkind', hbuffer'⟩ :=
    buffer_setInternal hT.ownership hT.controller hE.find hE.kind hset
  obtain ⟨u, u', gone, -, -, hu, hsetAt, hu', -⟩ := hT.ownership.setAt hT.controller hset
  obtain rfl := some.inj (hE.find.symm.trans hu)
  obtain rfl := some.inj (hfind'.symm.trans hu')
  obtain ⟨W₀, next, dependencies, hdropped, heq, -⟩ := hsetAt.dropped
  have hreferences : ∀ c', (W'.controller c').referenceMap = (W₀.controller c').referenceMap := by
    intro c'
    rw [heq]
    by_cases hc' : c' = c
    · subst hc'
      simp [setController]
    · simp [setController, hc', World.replace]
  have hfewer : Fewer W W' c buffer :=
    hdropped.fewer hT.ownership hT.once hE (by rw [heq]; rfl) (by rw [heq]; rfl) hreferences
  obtain ⟨hE', hfollows⟩ := hfewer.elements (l := l) hT.ownership hE hfind' hkind' hbuffer'
    fun j s w hs hw => by
      rw [hreferences, hdropped.references, mem_filter] at hw
      -- the element is not the one that is replaced, and the others move only if the list regrows
      have hstays : Stays v v' j := by
        cases hchild : childAt v (.index i) with
        | none =>
          refine (hsetAt.added hchild).2 (fun k hk hregrows => ?_) j
          obtain rfl : i = k := Position.index.inj hk
          exact absurd (lt_of_unregistered hE.kind (hun v hE.find hregrows) hs hw.1) (not_lt_zero _)
        | some x =>
          obtain ⟨k, b, t⟩ := x
          obtain ⟨hgone, -, hstays⟩ := hsetAt.replaced k b t hchild
          refine hstays j ?_
          rintro rfl
          obtain ⟨-, rfl, -⟩ := childAt_eq_some hchild
          rw [slot, hE.kind] at hgone
          simp [hgone] at hw
      obtain ⟨j', hs', hslot⟩ := hstays s hs
      rw [slot, hkind', slot, hE.kind] at hslot
      obtain ⟨rfl, rfl⟩ := Addr.mk.inj hslot
      exact ⟨rfl, hs'⟩
  exact ⟨⟨hW', honce', by rw [hcontrollers]; exact hT.controller, _, _, _, hE'⟩, hfollows⟩

lemma grow {size : Nat} (hT : W.Tended temps c a) (hfind : findIn slot a forest 0 W.values = some v)
    (hun : Regrows v size → W.Unregistered c v 0) :
    let W' := W.replace a (padTo size W.next v).1 (padTo size W.next v).2
    W'.Tended temps c a ∧ Follows W W' a l := by
  intro W'
  obtain ⟨u, buffer, spare, hE⟩ := hT.elements
  obtain rfl := some.inj (hfind.symm.trans hE.find)
  have htype : v.label.kind.type = some .list := by rw [hE.kind]; rfl
  have hbuilt := built_padTo size W.next v
  obtain ⟨buffer', spare', hkind', hbuffer'⟩ :=
    buffer_appendNulls (size - v.children.length) W.next hE.kind
  have hfewer : Fewer W W' c buffer := fewer_of_eq hT.ownership hE rfl rfl rfl
  obtain ⟨hE', hfollows⟩ := hfewer.elements (l := l) hT.ownership hE
    (findIn_replace hfind hbuilt.cell _) hkind' hbuffer' fun j s w hs hw => by
      have hregrows : ¬ Regrows v size := fun hregrows =>
        absurd (lt_of_unregistered hE.kind (hun hregrows) hs hw) (not_lt_zero _)
      obtain ⟨j', hs', hslot⟩ := stays_padTo W.next htype hregrows j s hs
      have hkind' : (padTo size W.next v).1.label.kind = .list buffer' spare' := hkind'
      rw [slot, hkind', slot, hE.kind] at hslot
      obtain ⟨rfl, rfl⟩ := Addr.mk.inj hslot
      exact ⟨rfl, hs'⟩
  have hW' : W'.Ownership temps := hT.ownership.replace hfind hbuilt (by simp) (by simp)
  exact ⟨⟨hW', hT.once.of_subset fun _ _ he => he, hT.controller, _, _, _, hE'⟩, hfollows⟩

lemma shrink {size : Nat} : ∀ {n : Nat} {W : World} {v : Value}, W.Tended temps c a →
    findIn slot a forest 0 W.values = some v → v.children.length = size + n →
    World.shrink c a size n W = .ok W' → W'.Tended temps c a ∧ Follows W W' a l
  | 0, W, v, hT, _, _, hshrink => by
    obtain rfl := Except.ok.inj hshrink
    exact ⟨hT, Follows.refl W a l⟩
  | n + 1, W, v, hT, hfind, hlength, hshrink => by
    obtain ⟨⟨removed, W₁⟩, hremove, hshrink⟩ := bind_eq_ok_iff.mp hshrink
    obtain ⟨hT₁, hfollows₁⟩ := hT.removeInternal (l := l) (fun u hu => by
      obtain rfl := some.inj (hfind.symm.trans hu)
      intro j hj hle
      omega) hremove
    obtain ⟨u, hderef, hcases⟩ := removeInternal_eq_ok hremove
    obtain rfl := some.inj (hfind.symm.trans (deref_eq_ok hderef).1)
    rcases hcases with ⟨hnone, -⟩ | ⟨i, b, t, W₀, hchild, -, hreferences, rfl⟩
    · have hle := length_le_of_indexOf (childAt_eq_none hnone)
      omega
    · obtain ⟨ht, rfl, hindex⟩ := childAt_eq_some hchild
      obtain rfl := indexOf_index hindex
      obtain ⟨u, hu, hinner⟩ := Ownership.exists_innerBlocks hfind (slot_block ht)
      obtain ⟨gone, hdropped, -⟩ :=
        removeReferences_dropped (hT.ownership.isOwner_eq_false hu hinner c) hreferences
      have hfind₁ : findIn slot a forest 0 (W₀.replace a (eraseChild (size + n) v) W₀.next).values =
          some (eraseChild (size + n) v) := by
        refine findIn_replace (v := v) ?_ (by rfl) _
        rw [hdropped.values]
        exact hfind
      have hlength₁ : (eraseChild (size + n) v).children.length = size + n := by
        show (v.children.eraseIdx (size + n)).length = size + n
        rw [length_eraseIdx, if_pos (by omega)]
        omega
      obtain ⟨hT', hfollows⟩ := shrink hT₁ hfind₁ hlength₁ hshrink
      exact ⟨hT', hfollows₁.trans hfollows⟩

lemma setObjects (hT : W.Tended temps c a) (object : Nat → CefValueImpl) (objects : Nat) :
    let W' := { W with object := object, objects := objects }
    W'.Tended temps c a ∧ Follows W W' a l := by
  intro W'
  obtain ⟨v, buffer, spare, hE⟩ := hT.elements
  have hfewer : Fewer W W' c buffer := fewer_of_eq hT.ownership hE rfl rfl rfl
  obtain ⟨hE', hfollows⟩ := hfewer.same (l := l) hT.ownership hE hE.find
  exact ⟨⟨hT.ownership.setObjects object objects, hT.once.setObjects object objects, hT.controller,
    _, _, _, hE'⟩, hfollows⟩

lemma makeLeaf (hT : W.Tended temps c a) (s : Scalar) :
    let W' := { W with next := W.next + 1 }
    W'.Tended (leaf W.next (.scalar s) :: temps) c a ∧ Follows W W' a l := by
  intro W'
  obtain ⟨v, buffer, spare, hE⟩ := hT.elements
  have hfewer : Fewer W W' c buffer := fewer_of_eq hT.ownership hE rfl rfl rfl
  obtain ⟨hE', hfollows⟩ := hfewer.same (l := l) hT.ownership hE hE.find
  exact ⟨⟨hT.ownership.makeLeaf s, hT.once.of_subset fun _ _ he => he, hT.controller, _, _, _, hE'⟩,
    hfollows⟩

lemma copyOrDetachValue {arg : Nat} {content : Value} (hT : W.Tended [] c a)
    (hfind₁ : findIn slot a forest 0 W₁.values = some v)
    (hcopy : W.copyOrDetachValue [c] arg c = .ok (content, W₁)) :
    W₁.Tended [content] c a ∧ Follows W W₁ a l ∧ findIn slot a forest 0 W.values = some v ∧
      (∀ first, W.Unregistered c v first → W₁.Unregistered c v first) ∧
      ((W.wrapper arg).mode = .ownerWillDelete → (W₁.wrapper arg).attachment = none) := by
  obtain ⟨u, buffer, spare, hE⟩ := hT.elements
  obtain ⟨hW₁, hcontrollers⟩ := hT.ownership.copyOrDetachValue mem_cons_self hT.controller hcopy
  have honce₁ := hT.once.copyOrDetachValue hT.ownership mem_cons_self hcopy
  have hparts : Fewer W W₁ c buffer ∧ (∀ t ∈ W₁.values, t ∈ W.values) ∧
      ((W.wrapper arg).mode = .ownerWillDelete → (W₁.wrapper arg).attachment = none) := by
    by_cases hmode : (W.wrapper arg).mode = .ownerWillDelete
    · obtain ⟨c', -, hne, -, hdetached⟩ := copyOrDetachValue_owner hcopy hmode
        (fun c a ha => (hT.ownership.isOwner_iff ha).mpr hmode) mem_cons_self
      refine ⟨hdetached.fewer hne hT.ownership hE hmode, fun t ht => ?_, fun _ => ?_⟩
      · rw [hdetached.values] at ht
        exact mem_of_mem_filter ht
      · rw [hdetached.wrapper arg, if_pos rfl]
        rfl
    · obtain ⟨next, rfl, -⟩ := copyOrDetachValue_copy hcopy hmode
      exact ⟨fewer_of_eq hT.ownership hE rfl rfl rfl, fun t ht => ht, fun h => absurd h hmode⟩
  obtain ⟨hfewer, hsub, hdetached⟩ := hparts
  have hfind := Anchored.findIn_of_subset hT.ownership hsub hfind₁
  obtain rfl := some.inj (hfind.symm.trans hE.find)
  obtain ⟨hE₁, hfollows⟩ := hfewer.same (l := l) hT.ownership hE hfind₁
  refine ⟨⟨hW₁, honce₁, by rw [hcontrollers]; exact hT.controller, _, _, _, hE₁⟩, hfollows, hfind,
    fun first hun j hj hle t ht hregistered => hun j hj hle t ht ?_, hdetached⟩
  obtain ⟨e, he, heq⟩ := mem_map.mp hregistered
  refine mem_map.mpr ⟨e, hfewer.slots c e he ?_, heq⟩
  rw [heq, slot, hE.kind]

lemma getOrCreateRef {t : Value} (hT : W.Tended temps c a)
    (hfind : findIn slot a forest 0 W.values = some v) (ht : v.children[i]? = some t)
    (type : ValueType) (parent : Addr) (readOnly : Bool) :
    let r := W.getOrCreateRef c type (slot v.label i t.label) parent readOnly t.label.cell
    r.2.Tended temps c a ∧ Follows W r.2 a l ∧ r.2.Faithful a r.1 := by
  intro r
  obtain ⟨u, buffer, spare, hE⟩ := hT.elements
  obtain rfl := some.inj (hfind.symm.trans hE.find)
  obtain ⟨hE', hfollows, hfaithful⟩ :=
    hE.getOrCreateRef (l := l) hT.ownership ht type parent readOnly
  obtain ⟨u, hu, hinner⟩ := Ownership.exists_innerBlocks hfind (slot_block ht)
  have hcontrollers : r.2.controllers = W.controllers := by
    rcases getOrCreateRef_cases W c type (slot v.label i t.label) parent readOnly t.label.cell with
      ⟨w, -, heq⟩ | ⟨-, href⟩
    · have hr : r = (w, W) := heq
      rw [hr]
    · exact href.controllers
  exact ⟨⟨hT.ownership.getOrCreateRef hu hinner hT.controller type parent readOnly t.label.cell,
    hT.once.getOrCreateRef hT.ownership c type _ parent readOnly t.label.cell,
    by rw [hcontrollers]; exact hT.controller, _, _, _, hE'⟩, hfollows, hfaithful⟩

lemma destroy {held : List Nat} {w : Nat} (hT : W.Tended temps c a)
    (hw : ∀ o, (W.wrapper w).attachment = some o → (W.wrapper w).mode ≠ .ownerWillDelete)
    (hdestroy : W.destroy held w = .ok W') : W'.Tended temps c a ∧ Follows W W' a l := by
  obtain ⟨v, buffer, spare, hE⟩ := hT.elements
  have hW' := hT.ownership.destroy hdestroy
  have honce' := hT.once.destroy hT.ownership hdestroy
  rcases hT.ownership.destroy_cases hdestroy with
    ⟨hnone, rfl⟩ | ⟨c', x, hattached, -, ⟨hmode, hreleased⟩ | ⟨hmode, -⟩⟩
  · have hfewer := fewer_setWrapper (x := { W.wrapper w with alive := false }) hT.ownership hE hnone
      hnone rfl
    obtain ⟨hE', hfollows⟩ := hfewer.same (l := l) hT.ownership hE hE.find
    exact ⟨⟨hW', honce', hT.controller, _, _, _, hE'⟩, hfollows⟩
  · have hfewer := hreleased.fewer hT.ownership hE hmode hattached
    have hfind' : findIn slot a forest 0 W'.values = some v := by
      rw [hreleased.values]
      exact hE.find
    obtain ⟨hE', hfollows⟩ := hfewer.same (l := l) hT.ownership hE hfind'
    exact ⟨⟨hW', honce', by rw [hreleased.controllers]; exact hT.controller, _, _, _, hE'⟩, hfollows⟩
  · exact absurd hmode (hw _ hattached)

lemma newOwner {u : Value} {type : ValueType} {next : Nat} (hT : W.Tended [] c a)
    (hW' : (W.newOwner type u next).Ownership []) (honce' : (W.newOwner type u next).RegisteredOnce) :
    (W.newOwner type u next).Tended [] c a ∧ Follows W (W.newOwner type u next) a l := by
  obtain ⟨v, buffer, spare, hE⟩ := hT.elements
  have hfewer := fewer_newOwner hT.ownership hT.controller hE type next (u := u)
  have hfind' : findIn slot a forest 0 (W.newOwner type u next).values = some v := by
    obtain ⟨l₁, t, l₂, hvalues, ht, -⟩ := forest_split hE.find
    refine hW'.findIn_eq (mem_cons_of_mem _ ?_) ht
    rw [hvalues]
    simp
  obtain ⟨hE', hfollows⟩ := hfewer.same (l := l) hT.ownership hE hfind'
  exact ⟨⟨hW', honce', lt_succ_of_lt hT.controller, _, _, _, hE'⟩, hfollows⟩

end Tended

end CefCore.Values.World
