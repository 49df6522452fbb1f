import CefCore.Values.ListReferences

/-!
# Users of a list

Any sequence of calls of the methods of a list that hand out wrappers for its elements and of those
that change it.

## Main results

* `elements_stay_denoted`: a wrapper that was handed out denotes its element as long as it is
  attached, if no call has moved an element that has a wrapper.
-/

namespace CefCore.Values

open PlacedTree Option Fallible

/-- The wrapper that a `CefValueImpl` holds. -/
def CefValueImpl.reference : CefValueImpl → Option Nat
  | .object w => some w
  | _ => none

namespace World

variable {W W' W₁ : World} {c l : Nat} {a : Addr} {temps : List Value} {pos : Position}

/-- The wrapper for an element that a call gives to its caller: `GetBinary`, `GetDictionary` and
`GetList` return it, and the `CefValue` of `GetValue` and `SetValue` holds it. -/
def returned (W : World) : Op → Option Nat
  | .getRef w pos type =>
    match W.getRef w pos type with
    | .ok (r, _) => r
    | .error _ => none
  | .getValue w pos =>
    match W.getValue w pos with
    | .ok (some o, W') => (W'.object o).reference
    | _ => none
  | .setValue w pos o last =>
    match W.setValue w pos o last with
    | .ok (true, W') => (W'.object o).reference
    | _ => none
  | _ => none

/-- The calls of a user of the list `l`: its methods; new values, to put them into it; and the end of
wrappers that own nothing. -/
def Op.OnList (W : World) (l : Nat) : Op → Prop
  | .getRef w _ _ | .getValue w _ | .setScalar w _ _ | .setObject w _ _ | .setValue w _ _ _
  | .removeAt w _ | .setSize w _ => w = l
  | .create _ _ | .newObject _ | .setInObject _ _ => True
  | .destroy w => w ≠ l ∧ (W.wrapper w).mode = .reference
  | .clear _ | .copy _ _ => False

instance (W : World) (l : Nat) : (op : Op) → Decidable (op.OnList W l)
  | .getRef w _ _ | .getValue w _ | .setScalar w _ _ | .setObject w _ _ | .setValue w _ _ _
  | .removeAt w _ | .setSize w _ => inferInstanceAs (Decidable (w = l))
  | .create _ _ | .newObject _ | .setInObject _ _ => .isTrue trivial
  | .destroy w => inferInstanceAs (Decidable (w ≠ l ∧ (W.wrapper w).mode = .reference))
  | .clear _ | .copy _ _ => .isFalse id

/-- A user of a list, with the wrappers for its elements that the calls have given. -/
structure ListUse where
  world : World
  obtained : List Nat

/-- One call of a user of the list `l`. -/
def ListUse.call (l : Nat) (s : ListUse) (op : Op) : Option ListUse :=
  if op.OnList s.world l then
    (s.world.call op).map fun W => ⟨W, (s.world.returned op).toList ++ s.obtained⟩
  else none

/-- What is asked of a call on the list `v`: it moves no element that has a wrapper. -/
def Op.MovesUnregistered (W : World) (c : Nat) (v : Value) : Op → Prop
  -- the elements behind the removed one move down
  | .removeAt _ (.index i) => W.Unregistered c v (i + 1)
  -- all elements move to a new buffer
  | .setScalar _ (.index i) _ | .setObject _ (.index i) _ | .setValue _ (.index i) _ _ =>
    Regrows v (i + 1) → W.Unregistered c v 0
  | .setSize _ size => Regrows v size → W.Unregistered c v 0
  | _ => True

instance (W : World) (c : Nat) (v : Value) : (op : Op) → Decidable (op.MovesUnregistered W c v)
  | .removeAt _ (.index i) => inferInstanceAs (Decidable (W.Unregistered c v (i + 1)))
  | .setScalar _ (.index i) _ | .setObject _ (.index i) _ | .setValue _ (.index i) _ _ =>
    inferInstanceAs (Decidable (Regrows v (i + 1) → W.Unregistered c v 0))
  | .setSize _ size => inferInstanceAs (Decidable (Regrows v size → W.Unregistered c v 0))
  | .removeAt _ (.key _) | .setScalar _ (.key _) _ | .setObject _ (.key _) _
  | .setValue _ (.key _) _ _ | .create _ _ | .getRef _ _ _ | .getValue _ _ | .clear _ | .copy _ _
  | .destroy _ | .newObject _ | .setInObject _ _ => .isTrue trivial

/-- A call of a method of the list `l`, if it may change the list, moves no element that has a
wrapper. -/
def MovesUnregistered (W : World) (l : Nat) (op : Op) : Prop :=
  (W.wrapper l).readOnly = false → ∀ o ∈ (W.wrapper l).attachment,
    ∀ v ∈ findIn slot o.2 forest 0 W.values, op.MovesUnregistered W o.1 v

instance (W : World) (l : Nat) (op : Op) : Decidable (W.MovesUnregistered l op) :=
  inferInstanceAs (Decidable (_ → ∀ o ∈ (W.wrapper l).attachment,
    ∀ v ∈ findIn slot o.2 forest 0 W.values, _))

lemma modifier_eq_ok {α : Type} {w : Nat} {x y : α} {f : Nat → Addr → List Nat → Except Fault α}
    (h : (W.verify [] w true >>= fun r => match r with
      | none => pure x
      | some (c, a, held) => f c a held) = .ok y) :
    y = x ∨ ∃ c a, (W.wrapper w).attachment = some (c, a) ∧ (W.wrapper w).readOnly = false ∧
      f c a [c] = .ok y := by
  obtain ⟨r, hr, h⟩ := bind_eq_ok_iff.mp h
  split at h
  · exact .inl (Except.ok.inj h).symm
  · rename_i c a held
    obtain ⟨hattached, -, rfl, hreadOnly⟩ := verify_eq_some hr
    exact .inr ⟨c, a, hattached, by simpa using hreadOnly, h⟩

lemma exists_index {v : Value} {pos : Position} {buffer spare : Nat}
    (hkind : v.label.kind = .list buffer spare)
    (htype : v.label.kind.type = some (containerType pos)) : ∃ i, pos = .index i := by
  cases pos with
  | key key => simp [hkind, Kind.type, containerType] at htype
  | index i => exact ⟨i, rfl⟩

/-! ### The `CefValueImpl`s are left alone -/

lemma remove_object {b : Addr} {notifyObject : Bool} (h : W.remove c b notifyObject = .ok W') :
    W'.object = W.object := by
  rw [(notify_eq_ok h).2]
  rfl

lemma removeDependencies_object (h : W.removeDependencies c a = .ok W') : W'.object = W.object := by
  rw [(notify_eq_ok h).2]
  rfl

lemma setInternal_object {content : Value} {r : Addr × Nat}
    (h : W.setInternal c a pos content = .ok (r, W')) : W'.object = W.object := by
  obtain ⟨removed, W₁, v, t, hremove, -, -, -, -, rfl⟩ := setInternal_eq_ok h
  obtain ⟨v, -, ⟨-, -, rfl⟩ | ⟨i, b, t, W₂, -, -, hreferences, rfl⟩⟩ := removeInternal_eq_ok hremove
  · rfl
  · obtain ⟨W₃, hremove, hreferences⟩ := bind_eq_ok_iff.mp hreferences
    show W₂.object = W.object
    rw [← remove_object hremove]
    split at hreferences
    · exact removeDependencies_object hreferences
    · rw [Except.ok.inj hreferences]

lemma destroy_object {held : List Nat} {w : Nat} (h : W.destroy held w = .ok W') :
    W'.object = W.object := by
  obtain ⟨r, -, h⟩ := bind_eq_ok_iff.mp h
  split at h
  · cases h
    rfl
  · obtain ⟨W₁, hremove, h⟩ := bind_eq_ok_iff.mp h
    obtain ⟨W₂, hdelete, h⟩ := bind_eq_ok_iff.mp h
    cases h
    rw [← remove_object hremove]
    unfold deleteValue at hdelete
    split at hdelete
    · obtain ⟨W₃, hdependencies, hdelete⟩ := bind_eq_ok_iff.mp hdelete
      cases hdelete
      show W₃.object = W₁.object
      exact removeDependencies_object hdependencies
    · cases hdelete
      rfl

namespace Tended

lemma exists_list (hT : W.Tended temps c a) : ∃ v buffer spare,
    findIn slot a forest 0 W.values = some v ∧ v.label.kind = .list buffer spare := by
  obtain ⟨v, buffer, spare, hE⟩ := hT.elements
  exact ⟨v, buffer, spare, hE.find, hE.kind⟩

lemma getRef {type : ValueType} {r : Option Nat} (hT : W.Tended [] c a)
    (hlist : ∀ o, (W.wrapper l).attachment = some o → o = (c, a))
    (h : W.getRef l pos type = .ok (r, W')) :
    W'.Tended [] c a ∧ Follows W W' a l ∧ ∀ w ∈ r, W'.Faithful a w := by
  rcases method_eq_ok h with heq | ⟨c', a', hl, h⟩
  · cases heq
    exact ⟨hT, Follows.refl _ _ _, by simp⟩
  · obtain ⟨rfl, rfl⟩ := Prod.mk.inj (hlist _ hl)
    obtain ⟨v, hderef, h⟩ := bind_eq_ok_iff.mp h
    split at h
    · cases h
      exact ⟨hT, Follows.refl _ _ _, by simp⟩
    · rename_i i b t hchild
      obtain ⟨ht, rfl, -⟩ := childAt_eq_some hchild
      split at h
      · cases h
        obtain ⟨hT', hfollows, hfaithful⟩ := hT.getOrCreateRef (l := l)
          (deref_eq_ok hderef).1 ht type a'
          (type = .binary || (W.wrapper l).readOnly)
        refine ⟨hT', hfollows, fun w hw => ?_⟩
        cases hw
        exact hfaithful
      · cases h
        exact ⟨hT, Follows.refl _ _ _, by simp⟩

lemma getValue {r : Option Nat} (hT : W.Tended [] c a)
    (hlist : ∀ o, (W.wrapper l).attachment = some o → o = (c, a))
    (h : W.getValue l pos = .ok (r, W')) : W'.Tended [] c a ∧ Follows W W' a l ∧
      ∀ o ∈ r, ∀ w ∈ (W'.object o).reference, W'.Faithful a w := by
  rcases method_eq_ok h with heq | ⟨c', a', hl, h⟩
  · cases heq
    exact ⟨hT, Follows.refl _ _ _, by simp⟩
  · obtain ⟨rfl, rfl⟩ := Prod.mk.inj (hlist _ hl)
    obtain ⟨v, hderef, h⟩ := bind_eq_ok_iff.mp h
    split at h
    · cases h
      exact ⟨hT, Follows.refl _ _ _, by simp⟩
    · rename_i i b t hchild
      obtain ⟨ht, rfl, -⟩ := childAt_eq_some hchild
      split at h
      · rename_i type _
        cases h
        obtain ⟨hT₁, hfollows₁, hfaithful⟩ := hT.getOrCreateRef (l := l) (deref_eq_ok hderef).1 ht type
          a' (type = .binary || (W.wrapper l).readOnly)
        obtain ⟨hT', hfollows⟩ := hT₁.setObjects (l := l) _ _
        refine ⟨hT', hfollows₁.trans hfollows, fun o ho w hw => hfollows.faithful w ?_⟩
        cases ho
        obtain rfl : _ = w := by simpa [newObject, CefValueImpl.reference] using hw
        exact hfaithful
      · rename_i s _ _
        cases h
        obtain ⟨hT', hfollows⟩ := hT.setObjects (l := l)
          (Function.update W.object W.objects (.scalar s))
          (W.objects + 1)
        refine ⟨hT', hfollows, fun o ho w hw => ?_⟩
        cases ho
        simp [newObject, CefValueImpl.reference] at hw
      · simp at h

lemma index_of_find {v : Value} (hT : W.Tended temps c a)
    (hfind : findIn slot a forest 0 W.values = some v)
    (htype : v.label.kind.type = some (containerType pos)) : ∃ i, pos = .index i := by
  obtain ⟨u, buffer, spare, hu, hkind⟩ := hT.exists_list
  obtain rfl := some.inj (hfind.symm.trans hu)
  exact exists_index hkind htype

lemma setLeaf {s : Scalar} {r : Addr × Nat} (hT : W.Tended [] c a)
    (hun : ∀ i, pos = .index i → ∀ v, findIn slot a forest 0 W.values = some v →
      Regrows v (i + 1) → W.Unregistered c v 0)
    (hset : { W with next := W.next + 1 }.setInternal c a pos (leaf W.next (.scalar s)) =
      .ok (r, W')) : W'.Tended [] c a ∧ Follows W W' a l := by
  obtain ⟨hT₁, hfollows₁⟩ := hT.makeLeaf (l := l) s
  obtain ⟨v, hfind, htype⟩ := find_of_setInternal hset
  obtain ⟨i, rfl⟩ := hT.index_of_find hfind htype
  obtain ⟨hT', hfollows⟩ := hT₁.setInternal (l := l) (hun i rfl) hset
  exact ⟨hT', hfollows₁.trans hfollows⟩

variable {arg : Nat} {r : Bool}

section

variable (hT : W.Tended [] c a)
include hT

lemma transfer {content : Value} {r : Addr × Nat} {W₂ : World}
    (hun : ∀ i, pos = .index i → ∀ v, findIn slot a forest 0 W.values = some v →
      Regrows v (i + 1) → W.Unregistered c v 0)
    (hcopy : W.copyOrDetachValue [c] arg c = .ok (content, W₁))
    (hset : W₁.setInternal c a pos content = .ok (r, W₂)) :
    W₂.Tended [] c a ∧ (∀ l, Follows W W₂ a l) ∧ (arg < W.wrappers →
      ∀ o, (W₂.wrapper arg).attachment = some o → (W₂.wrapper arg).mode ≠ .ownerWillDelete) ∧
      ∃ v i t, findIn slot a forest 0 W₂.values = some v ∧ v.children[i]? = some t ∧
        r = (slot v.label i t.label, t.label.cell) := by
  obtain ⟨v, hfind₁, htype⟩ := find_of_setInternal hset
  obtain ⟨hT₁, -, hfind, hregistered, hdetached⟩ := hT.copyOrDetachValue (l := arg) hfind₁ hcopy
  obtain ⟨i, rfl⟩ := hT.index_of_find hfind htype
  have hun₁ : ∀ u, findIn slot a forest 0 W₁.values = some u → Regrows u (i + 1) →
      W₁.Unregistered c u 0 := by
    intro u hu hregrows
    obtain rfl := some.inj (hfind₁.symm.trans hu)
    exact hregistered 0 (hun i rfl v hfind hregrows)
  have hfollows₁ : ∀ l, Follows W W₁ a l := fun l =>
    (hT.copyOrDetachValue (l := l) hfind₁ hcopy).2.1
  have hfollows₂ : ∀ l, Follows W₁ W₂ a l := fun l => (hT₁.setInternal (l := l) hun₁ hset).2
  obtain ⟨hT₂, -⟩ := hT₁.setInternal (l := arg) hun₁ hset
  refine ⟨hT₂, fun l => (hfollows₁ l).trans (hfollows₂ l), fun harg o ho hmode => ?_,
    (hT₁.ownership.setInternal hT₁.controller hset).2.2⟩
  -- an owner is detached when its value is taken
  have harg₁ := Nat.lt_of_lt_of_le harg (hfollows₁ arg).wrappers
  rw [(hfollows₂ arg).mode harg₁, (hfollows₁ arg).mode harg] at hmode
  have hattached := (hfollows₂ arg).attachment harg₁ o ho
  rw [hdetached hmode] at hattached
  cases hattached

lemma swapValue {held : List Nat} {o i : Nat} {last : Bool} {v t : Value}
    (hfind : findIn slot a forest 0 W.values = some v)
    (ht : v.children[i]? = some t) (harg : arg < W.wrappers)
    (howner : ∀ x, (W.wrapper arg).attachment = some x → (W.wrapper arg).mode ≠ .ownerWillDelete)
    (hswap : W.swapValue held o arg c (slot v.label i t.label) a t.label.cell last = .ok W') :
    W'.Tended [] c a ∧ Follows W W' a l ∧ ∀ w ∈ (W'.object o).reference, W'.Faithful a w := by
  unfold World.swapValue at hswap
  dsimp only at hswap
  have href : ∀ l, _ := fun l => hT.getOrCreateRef (l := l) hfind ht (W.wrapper arg).type a
    ((W.wrapper arg).type = .binary)
  generalize W.getOrCreateRef c (W.wrapper arg).type (slot v.label i t.label) a
    ((W.wrapper arg).type = .binary) t.label.cell = x at hswap href
  obtain ⟨r, W₁⟩ := x
  obtain ⟨hT₁, -, hfaithful₁⟩ := href l
  have hfollows₁ : ∀ l, Follows W W₁ a l := fun l => (href l).2.1
  obtain ⟨hT₂, -⟩ := hT₁.setObjects (l := l) (Function.update W₁.object o (.object r)) W₁.objects
  have hfollows₂ : ∀ l, Follows W₁ _ a l := fun l =>
    (hT₁.setObjects (l := l) (Function.update W₁.object o (.object r)) W₁.objects).2
  have hobject : ∀ w, w ∈ (Function.update W₁.object o (.object r) o).reference → w = r := by
    intro w hw
    simpa [CefValueImpl.reference, eq_comm] using hw
  split at hswap
  · have howner₂ : ∀ x, (W₁.wrapper arg).attachment = some x →
        (W₁.wrapper arg).mode ≠ .ownerWillDelete := by
      intro x hx hmode
      rw [(hfollows₁ arg).mode harg] at hmode
      exact howner x ((hfollows₁ arg).attachment harg x hx) hmode
    obtain ⟨hT', hfollows'⟩ := hT₂.destroy (l := l) howner₂ hswap
    refine ⟨hT', ((hfollows₁ l).trans (hfollows₂ l)).trans hfollows', fun w hw => ?_⟩
    rw [destroy_object hswap] at hw
    obtain rfl := hobject w hw
    exact hfollows'.faithful w ((hfollows₂ l).faithful w hfaithful₁)
  · cases hswap
    refine ⟨hT₂, (hfollows₁ l).trans (hfollows₂ l), fun w hw => ?_⟩
    obtain rfl := hobject w hw
    exact (hfollows₂ l).faithful w hfaithful₁

lemma create (type : ValueType) (data : List UInt8)
    (hW' : (W.create type data).Ownership []) (honce' : (W.create type data).RegisteredOnce) :
    (W.create type data).Tended [] c a ∧ Follows W (W.create type data) a l := by
  cases type with
  | binary => exact hT.newOwner hW' honce'
  | dictionary => exact hT.newOwner hW' honce'
  | list => exact hT.newOwner hW' honce'

section

variable (hlist : ∀ o, (W.wrapper l).attachment = some o → o = (c, a))
include hlist

lemma removeAt
    (hmoves : W.MovesUnregistered l (.removeAt l pos)) (h : W.removeAt l pos = .ok (r, W')) :
    W'.Tended [] c a ∧ Follows W W' a l := by
  rcases modifier_eq_ok h with heq | ⟨c', a', hl, hreadOnly, h⟩
  · cases heq
    exact ⟨hT, Follows.refl _ _ _⟩
  · obtain ⟨rfl, rfl⟩ := Prod.mk.inj (hlist _ hl)
    obtain ⟨v, hderef, -⟩ := removeInternal_eq_ok h
    obtain ⟨hfind, htype⟩ := deref_eq_ok hderef
    obtain ⟨i, rfl⟩ := hT.index_of_find hfind htype
    exact hT.removeInternal (hmoves hreadOnly _ hl) h

lemma setSize {size : Nat}
    (hmoves : W.MovesUnregistered l (.setSize l size)) (h : W.setSize l size = .ok (r, W')) :
    W'.Tended [] c a ∧ Follows W W' a l := by
  rcases modifier_eq_ok h with heq | ⟨c', a', hl, hreadOnly, h⟩
  · cases heq
    exact ⟨hT, Follows.refl _ _ _⟩
  · obtain ⟨rfl, rfl⟩ := Prod.mk.inj (hlist _ hl)
    obtain ⟨v, hderef, h⟩ := bind_eq_ok_iff.mp h
    obtain ⟨hfind, -⟩ := deref_eq_ok hderef
    split at h
    · rename_i hsize
      split at h
      · simp at h
      · obtain ⟨W₁, hshrink, h⟩ := bind_eq_ok_iff.mp h
        cases h
        exact hT.shrink hfind (by omega) hshrink
    · cases h
      exact hT.grow hfind (hmoves hreadOnly _ hl v hfind)

lemma setScalar {s : Scalar}
    (hmoves : W.MovesUnregistered l (.setScalar l pos s)) (h : W.setScalar l pos s = .ok (r, W')) :
    W'.Tended [] c a ∧ Follows W W' a l := by
  rcases modifier_eq_ok h with heq | ⟨c', a', hl, hreadOnly, h⟩
  · cases heq
    exact ⟨hT, Follows.refl _ _ _⟩
  · obtain ⟨rfl, rfl⟩ := Prod.mk.inj (hlist _ hl)
    obtain ⟨⟨x, W₁⟩, hset, h⟩ := bind_eq_ok_iff.mp h
    cases h
    refine hT.setLeaf ?_ hset
    rintro i rfl v hv
    exact hmoves hreadOnly _ hl v hv

lemma setObject (hmoves : W.MovesUnregistered l (.setObject l pos arg))
    (h : W.setObject l pos arg = .ok (r, W')) : W'.Tended [] c a ∧ Follows W W' a l := by
  rcases modifier_eq_ok h with heq | ⟨c', a', hl, hreadOnly, h⟩
  · cases heq
    exact ⟨hT, Follows.refl _ _ _⟩
  · obtain ⟨rfl, rfl⟩ := Prod.mk.inj (hlist _ hl)
    obtain ⟨⟨content, W₁⟩, hcopy, h⟩ := bind_eq_ok_iff.mp h
    obtain ⟨⟨x, W₂⟩, hset, h⟩ := bind_eq_ok_iff.mp h
    cases h
    obtain ⟨hT', hfollows, -⟩ := hT.transfer (fun i hi v hv => by
      subst hi
      exact hmoves hreadOnly _ hl v hv) hcopy hset
    exact ⟨hT', hfollows l⟩

end

lemma setValue {o : Nat} {last : Bool} (hlist : ∀ o, (W.wrapper l).attachment = some o → o = (c, a))
    (hmoves : W.MovesUnregistered l (.setValue l pos o last))
    (harg : ∀ arg, W.object o = .object arg → arg < W.wrappers)
    (h : W.setValue l pos o last = .ok (r, W')) : W'.Tended [] c a ∧ Follows W W' a l ∧
      (r = true → ∀ w ∈ (W'.object o).reference, W'.Faithful a w) := by
  rcases modifier_eq_ok h with heq | ⟨c', a', hl, hreadOnly, h⟩
  · cases heq
    exact ⟨hT, Follows.refl _ _ _, by simp⟩
  · obtain ⟨rfl, rfl⟩ := Prod.mk.inj (hlist _ hl)
    have hun : ∀ i, pos = .index i → ∀ v, findIn slot a' forest 0 W.values = some v →
        Regrows v (i + 1) → W.Unregistered c' v 0 := by
      rintro i rfl v hv
      exact hmoves hreadOnly _ hl v hv
    split at h
    · simp at h
    · rename_i s hobject
      obtain ⟨⟨x, W₁⟩, hset, h⟩ := bind_eq_ok_iff.mp h
      cases h
      obtain ⟨hT', hfollows⟩ := hT.setLeaf (l := l) hun hset
      refine ⟨hT', hfollows, fun _ w hw => ?_⟩
      rw [setInternal_object hset] at hw
      simp [hobject, CefValueImpl.reference] at hw
    · rename_i arg hobject
      obtain ⟨⟨content, W₁⟩, hcopy, h⟩ := bind_eq_ok_iff.mp h
      obtain ⟨⟨⟨b, cell⟩, W₂⟩, hset, h⟩ := bind_eq_ok_iff.mp h
      obtain ⟨W₃, hswap, h⟩ := bind_eq_ok_iff.mp h
      cases h
      have harg := harg arg hobject
      obtain ⟨hT₂, hfollows₂, howner, v, i, t, hv, ht, heq⟩ := hT.transfer hun hcopy hset
      cases heq
      obtain ⟨hT', hfollows', hfaithful⟩ := hT₂.swapValue (l := l) hv ht
        (Nat.lt_of_lt_of_le harg (hfollows₂ l).wrappers) (howner harg) hswap
      exact ⟨hT', (hfollows₂ l).trans hfollows', fun _ => hfaithful⟩

/-- **A call of a user of the list** that moves no element that has a wrapper keeps the wrappers of
the elements right, and what it hands out is right. -/
theorem step {op : Op}
    (hlist : ∀ o, (W.wrapper l).attachment = some o → o = (c, a)) (hop : op.OnList W l)
    (hmoves : W.MovesUnregistered l op) (hstep : W.step op = .ok W') :
    W'.Tended [] c a ∧ Follows W W' a l ∧ ∀ w ∈ W.returned op, W'.Faithful a w := by
  have hW' := hT.ownership.step hstep
  have honce' := hT.once.step hT.ownership hstep
  unfold World.step at hstep
  split at hstep
  swap
  · simp at hstep
  rename_i halive
  have hnone : ∀ {r : Option Nat}, r = none → ∀ w ∈ r, W'.Faithful a w := by
    rintro r rfl w hw
    cases hw
  cases op with
  | create type data =>
    cases hstep
    obtain ⟨hT', hfollows⟩ := hT.create type data hW' honce' (l := l)
    exact ⟨hT', hfollows, hnone rfl⟩
  | getRef w pos type =>
    obtain rfl : w = l := hop
    obtain ⟨⟨r, W₁⟩, hr, rfl⟩ := map_eq_ok_iff.mp hstep
    obtain ⟨hT', hfollows, hfaithful⟩ := hT.getRef hlist hr
    refine ⟨hT', hfollows, fun w' hw' => hfaithful w' ?_⟩
    simpa [returned, hr] using hw'
  | getValue w pos =>
    obtain rfl : w = l := hop
    obtain ⟨⟨r, W₁⟩, hr, rfl⟩ := map_eq_ok_iff.mp hstep
    obtain ⟨hT', hfollows, hfaithful⟩ := hT.getValue hlist hr
    refine ⟨hT', hfollows, fun w' hw' => ?_⟩
    cases r with
    | none => simp [returned, hr] at hw'
    | some o => exact hfaithful o rfl w' (by simpa [returned, hr] using hw')
  | setScalar w pos s =>
    obtain rfl : w = l := hop
    obtain ⟨⟨r, W₁⟩, hr, rfl⟩ := map_eq_ok_iff.mp hstep
    obtain ⟨hT', hfollows⟩ := hT.setScalar hlist hmoves hr
    exact ⟨hT', hfollows, hnone rfl⟩
  | setObject w pos arg =>
    obtain rfl : w = l := hop
    obtain ⟨⟨r, W₁⟩, hr, rfl⟩ := map_eq_ok_iff.mp hstep
    obtain ⟨hT', hfollows⟩ := hT.setObject hlist hmoves hr
    exact ⟨hT', hfollows, hnone rfl⟩
  | setValue w pos o last =>
    obtain rfl : w = l := hop
    obtain ⟨⟨r, W₁⟩, hr, rfl⟩ := map_eq_ok_iff.mp hstep
    have harg : ∀ arg, W.object o = .object arg → arg < W.wrappers := by
      intro arg hobject
      refine hT.ownership.wrapper_lt arg (List.all_eq_true.mp halive arg ?_)
      simp [Op.wrappers, hobject]
    obtain ⟨hT', hfollows, hfaithful⟩ := hT.setValue hlist hmoves harg hr
    refine ⟨hT', hfollows, fun w' hw' => ?_⟩
    cases r with
    | false => simp [returned, hr] at hw'
    | true => exact hfaithful rfl w' (by simpa [returned, hr] using hw')
  | removeAt w pos =>
    obtain rfl : w = l := hop
    obtain ⟨⟨r, W₁⟩, hr, rfl⟩ := map_eq_ok_iff.mp hstep
    obtain ⟨hT', hfollows⟩ := hT.removeAt hlist hmoves hr
    exact ⟨hT', hfollows, hnone rfl⟩
  | clear w => exact hop.elim
  | setSize w size =>
    obtain rfl : w = l := hop
    obtain ⟨⟨r, W₁⟩, hr, rfl⟩ := map_eq_ok_iff.mp hstep
    obtain ⟨hT', hfollows⟩ := hT.setSize hlist hmoves hr
    exact ⟨hT', hfollows, hnone rfl⟩
  | copy w excludeEmptyChildren => exact hop.elim
  | destroy w =>
    obtain ⟨-, hmode⟩ : w ≠ l ∧ (W.wrapper w).mode = .reference := hop
    obtain ⟨hT', hfollows⟩ := hT.destroy (l := l) (fun _ _ h => by
      rw [hmode] at h
      cases h) hstep
    exact ⟨hT', hfollows, hnone rfl⟩
  | newObject x =>
    cases hstep
    obtain ⟨hT', hfollows⟩ := hT.setObjects (l := l) _ _
    exact ⟨hT', hfollows, hnone rfl⟩
  | setInObject o x =>
    cases hstep
    obtain ⟨hT', hfollows⟩ := hT.setObjects (l := l) _ _
    exact ⟨hT', hfollows, hnone rfl⟩

end

end Tended

/-! ### Runs -/

/-- What holds of a user of the list `l`, attached to `c` and `a`. -/
structure ListUse.Good (s : ListUse) (l c : Nat) (a : Addr) : Prop where
  tended : s.world.Tended [] c a
  lt : l < s.world.wrappers
  list : ∀ o, (s.world.wrapper l).attachment = some o → o = (c, a)
  obtained : ∀ w ∈ s.obtained, s.world.Faithful a w

theorem ListUse.Good.call {s s' : ListUse} {op : Op} (h : s.Good l c a)
    (hmoves : s.world.MovesUnregistered l op) (hcall : ListUse.call l s op = some s') :
    s'.Good l c a := by
  unfold ListUse.call at hcall
  split at hcall
  · rename_i hop
    obtain ⟨W', hW', rfl⟩ := map_eq_some_iff.mp hcall
    obtain ⟨hT', hfollows, hfaithful⟩ := h.tended.step h.list hop hmoves (call_eq_some hW')
    refine ⟨hT', Nat.lt_of_lt_of_le h.lt hfollows.wrappers,
      fun o ho => h.list o (hfollows.attachment h.lt o ho), fun w hw => ?_⟩
    rcases List.mem_append.mp hw with hw | hw
    · exact hfaithful w (mem_toList.mp hw)
    · exact hfollows.faithful w (h.obtained w hw)
  · cases hcall

/-- **Element references stay attached to their elements.** A list, in any state that calls can reach,
whose elements have right wrappers; and a user who makes any sequence of calls of its methods, none of
which moves an element that has a wrapper. Then every wrapper that was handed out for an element, as
long as it is attached, is attached to the slot where that element is. -/
theorem elements_stay_denoted (before : List Op) (W : World)
    (hbefore : before.foldlM World.call World.new = some W) (l c : Nat) (a : Addr)
    (hl : (W.wrapper l).attachment = some (c, a)) (helements : W.ElementsAttached c a)
    (ops : List Op) (halong : Transition.Along (ListUse.call l)
      (fun s op => s.world.MovesUnregistered l op) ⟨W, []⟩ ops) (s : ListUse)
    (hrun : ops.foldlM (ListUse.call l) ⟨W, []⟩ = some s) :
    ∀ w ∈ s.obtained, s.world.DenotesElement a w := by
  have hW := Ownership.run hbefore
  obtain ⟨halive, -, hc⟩ := hW.attached l c a hl
  have hstart : ListUse.Good ⟨W, []⟩ l c a :=
    ⟨⟨hW, RegisteredOnce.run hbefore, hc, helements⟩, hW.wrapper_lt l halive,
      fun o ho => (some.inj (hl.symm.trans ho)).symm, by simp⟩
  have hgood := Transition.Along.invariant (I := fun s => s.Good l c a)
    (fun s op s' hs hmoves hcall => hs.call hmoves hcall) ops _ s hstart halong hrun
  exact fun w hw => (hgood.obtained w hw).denotes

lemma Ownership.elementsAttached_create (h : W.Ownership []) (data : List UInt8) :
    (W.create .list data).ElementsAttached W.controllers ⟨W.next, 0⟩ := by
  have hfind : findIn slot ⟨W.next, 0⟩ forest 0 (W.create .list data).values =
      some (leaf W.next (.list (W.next + 1) 0)) := by
    exact findIn_cons_of_find slot (find_self slot _)
  refine ⟨_, W.next + 1, 0, hfind, rfl, fun w c' x hmode hx hblock => ?_, fun c' x w hx hblock => ?_⟩
  · have hne : w ≠ W.wrappers := by
      rintro rfl
      simp [World.create, World.newOwner] at hmode
    have hwrapper : (W.create .list data).wrapper w = W.wrapper w := Function.update_of_ne hne _ _
    rw [hwrapper] at hmode hx
    have hlt := (h.inner w c' x hmode hx).1
    omega
  · have hx' : (x, w) ∈ (W.controller c').referenceMap := by
      by_cases hc' : c' = W.controllers
      · subst hc'
        simp [World.create, World.newOwner, CefValueController.setOwner,
          CefValueController.new] at hx
      · simpa [World.create, World.newOwner, hc'] using hx
    have hlt := (h.key c' _ hx').1
    dsimp only at hlt
    omega

def listBefore : List Op := [.create .dictionary [], .create .dictionary [], .create .list []]

/-- The dictionaries are put into the list while there is room, and their wrappers are got; the last
element is removed, and then the first one. -/
def listUse : List Op :=
  [.setSize 2 2, .setObject 2 (.index 0) 0, .setObject 2 (.index 1) 1, .getRef 2 (.index 0) .dictionary,
    .setScalar 2 (.index 1) .null, .removeAt 2 (.index 1), .getValue 2 (.index 0),
    .removeAt 2 (.index 0)]

theorem elements_stay_denoted_list : ∃ W s, listBefore.foldlM World.call World.new = some W ∧
    listUse.foldlM (ListUse.call 2) ⟨W, []⟩ = some s ∧ s.obtained ≠ [] ∧
      ∀ w ∈ s.obtained, s.world.DenotesElement ⟨2, 0⟩ w := by
  have hdictionaries : [Op.create .dictionary [], .create .dictionary []].foldlM World.call World.new =
      some ((World.new.create .dictionary []).create .dictionary []) := rfl
  have helements := (Ownership.run hdictionaries).elementsAttached_create []
  generalize hW : ((World.new.create .dictionary []).create .dictionary []).create .list [] = W
    at helements
  have hbefore : listBefore.foldlM World.call World.new = some W := by
    rw [← hW]
    rfl
  have hsome : (listUse.foldlM (ListUse.call 2) ⟨W, []⟩).isSome = true ∧
      ∀ s ∈ listUse.foldlM (ListUse.call 2) ⟨W, []⟩, s.obtained ≠ [] := by
    rw [← hW]
    decide +kernel
  obtain ⟨s, hs⟩ := isSome_iff_exists.mp hsome.1
  refine ⟨W, s, hbefore, hs, hsome.2 s hs, elements_stay_denoted listBefore W hbefore 2 2 ⟨2, 0⟩ ?_
    helements listUse ?_ s hs⟩
  · rw [← hW]
    rfl
  · rw [← hW]
    decide +kernel

def erasedNeighbour : List Op :=
  [.setObject 2 (.index 0) 0, .setObject 2 (.index 1) 1, .getRef 2 (.index 1) .dictionary,
    .removeAt 2 (.index 0)]

/-- The second element has moved down, and its wrapper stays attached to the slot where it was. -/
theorem erased_neighbour_not_denoted : ¬ ∀ (before : List Op) (W : World),
    before.foldlM World.call World.new = some W → ∀ (l c : Nat) (a : Addr),
    (W.wrapper l).attachment = some (c, a) → W.ElementsAttached c a → ∀ (ops : List Op) (s : ListUse),
    ops.foldlM (ListUse.call l) ⟨W, []⟩ = some s → ∀ w ∈ s.obtained, s.world.DenotesElement a w := by
  intro h
  have hdictionaries : [Op.create .dictionary [], .create .dictionary []].foldlM World.call World.new =
      some ((World.new.create .dictionary []).create .dictionary []) := rfl
  have helements := (Ownership.run hdictionaries).elementsAttached_create []
  have hlost : ∀ s ∈ erasedNeighbour.foldlM (ListUse.call 2)
      ⟨((World.new.create .dictionary []).create .dictionary []).create .list [], []⟩,
      3 ∈ s.obtained ∧ ∃ o ∈ (s.world.wrapper 3).attachment,
        ∀ v ∈ findIn slot ⟨2, 0⟩ forest 0 s.world.values, v.children.length = 1 ∧
          ∀ t ∈ v.children[0]?, o.2 ≠ slot v.label 0 t.label := by
    decide +kernel
  have hsome : (erasedNeighbour.foldlM (ListUse.call 2)
      ⟨((World.new.create .dictionary []).create .dictionary []).create .list [],
        []⟩).isSome = true := by
    decide +kernel
  obtain ⟨s, hs⟩ := isSome_iff_exists.mp hsome
  obtain ⟨hobtained, o, ho, hslots⟩ := hlost s hs
  obtain ⟨v, hv, i, hi, t, ht, hslot, -⟩ :=
    h listBefore _ rfl 2 2 ⟨2, 0⟩ rfl helements erasedNeighbour s hs 3 hobtained o ho
  obtain ⟨hlength, hslots⟩ := hslots v hv
  obtain rfl : i = 0 := by omega
  exact hslots t ht hslot

end World

end CefCore.Values
