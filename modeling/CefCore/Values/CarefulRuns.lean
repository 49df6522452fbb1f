import CefCore.Values.Invalidation

/-!
# Runs that leave no dangling wrapper

What the runs of calls have to leave alone.

## Main results

* `references_contained`: no wrapper to a value that is not there any more is left, if whenever a
  value is removed no wrapper between that value and the wrappers below it has been destroyed, and
  if no element of a list moves that a wrapper or a wrapper's parent refers to.
* `registry_coherent`: the registry of the controllers is coherent then.
-/

namespace CefCore.Values.World

open PlacedTree List Option Nat Transition

variable {W W' W₁ : World} {c : Nat} {a b : Addr} {temps : List Value}

/-- No wrapper is missing between the child at the position and the wrappers below it. -/
def RemovesLinked (W : World) (c : Nat) (v : Value) (pos : Position) : Prop :=
  ∀ r ∈ childAt v pos, W.Linked c r.2.1 r.2.2

instance (W : World) (c : Nat) (v : Value) (pos : Position) : Decidable (W.RemovesLinked c v pos) :=
  inferInstanceAs (Decidable (∀ r ∈ childAt v pos, _))

/-- The elements of the list from an index on have no wrappers, and neither do their children. -/
def MovesStill (W : World) (c : Nat) (a : Addr) (v : Value) (first : Nat) : Prop :=
  ∀ j < v.children.length, first ≤ j → ∀ t ∈ v.children[j]?, W.Still c a (slot v.label j t.label) t

instance (W : World) (c : Nat) (a : Addr) (v : Value) (first : Nat) :
    Decidable (W.MovesStill c a v first) :=
  inferInstanceAs (Decidable (∀ j < v.children.length, _ → ∀ t ∈ v.children[j]?, _))

/-- What is asked of a call, on the container `v` of its receiver. -/
def Op.CarefulAt (W : World) (c : Nat) (a : Addr) (v : Value) : Op → Prop
  | .removeAt _ pos => W.RemovesLinked c v pos ∧
    -- the elements behind the removed one move down
    ∀ i ∈ indexOf v pos, v.label.kind.type = some .list → W.MovesStill c a v (i + 1)
  | .setScalar _ pos _ | .setObject _ pos _ | .setValue _ pos _ _ => W.RemovesLinked c v pos ∧
    match pos with
    | .key _ => True
    -- all elements move to a new buffer
    | .index k => Regrows v (k + 1) → W.MovesStill c a v 0
  | .clear _ => W.Linked c a v
  | .setSize _ size =>
    (∀ j < v.children.length, size ≤ j → ∀ t ∈ v.children[j]?, W.Linked c (slot v.label j t.label) t) ∧
      (Regrows v size → W.MovesStill c a v 0)
  | _ => True

instance (W : World) (c : Nat) (a : Addr) (v : Value) : (op : Op) → Decidable (op.CarefulAt W c a v)
  | .removeAt _ pos =>
    inferInstanceAs (Decidable (W.RemovesLinked c v pos ∧ ∀ i ∈ indexOf v pos, _ → _))
  | .setScalar _ (.key key) _ | .setObject _ (.key key) _ | .setValue _ (.key key) _ _ =>
    inferInstanceAs (Decidable (W.RemovesLinked c v (.key key) ∧ True))
  | .setScalar _ (.index k) _ | .setObject _ (.index k) _ | .setValue _ (.index k) _ _ =>
    inferInstanceAs (Decidable (W.RemovesLinked c v (.index k) ∧ (Regrows v (k + 1) → _)))
  | .clear _ => inferInstanceAs (Decidable (W.Linked c a v))
  | .setSize _ size =>
    inferInstanceAs (Decidable ((∀ j < v.children.length, size ≤ j → ∀ t ∈ v.children[j]?, _) ∧
      (Regrows v size → _)))
  | .create _ _ | .getRef _ _ _ | .getValue _ _ | .copy _ _ | .destroy _ | .newObject _
  | .setInObject _ _ => .isTrue trivial

/-- The wrapper whose method is called, for the calls that change a container. -/
def Op.receiver : Op → Option Nat
  | .setScalar w _ _ | .setObject w _ _ | .setValue w _ _ _ | .removeAt w _ | .clear w
  | .setSize w _ => some w
  | _ => none

/-- The call transfers bare values, removes nothing from under a missing wrapper, and moves nothing
that has wrappers. -/
def Careful (W : World) (op : Op) : Prop :=
  W.TransfersBare op ∧ ∀ w ∈ op.receiver, ∀ o ∈ (W.wrapper w).attachment,
    ∀ v ∈ findIn slot o.2 forest 0 W.values, op.CarefulAt W o.1 o.2 v

instance (W : World) (op : Op) : Decidable (W.Careful op) :=
  inferInstanceAs (Decidable (_ ∧ ∀ w ∈ op.receiver, ∀ o ∈ (W.wrapper w).attachment,
    ∀ v ∈ findIn slot o.2 forest 0 W.values, _))

lemma Careful.at {op : Op} {w : Nat} {v : Value} (h : W.Careful op) (hop : op.receiver = some w)
    (hw : (W.wrapper w).attachment = some (c, a))
    (hv : findIn slot a forest 0 W.values = some v) : op.CarefulAt W c a v :=
  h.2 w hop (c, a) hw v hv

variable {t : Value}

lemma MovesStill.still {v : Value} {first j : Nat} (h : W.MovesStill c a v first) (hj : first ≤ j)
    (ht : v.children[j]? = some t) : W.Still c a (slot v.label j t.label) t :=
  h j (List.getElem?_eq_some_iff.mp ht).1 hj t ht

/-! ### The conditions depend on the entries only -/

section

variable (hreferences : (W'.controller c).referenceMap = (W.controller c).referenceMap)
include hreferences

lemma Linked.congr (h : W.Linked c b t) : W'.Linked c b t := by
  unfold Linked Registered at *
  rw [hreferences]
  exact h

lemma Still.congr (h : W.Still c a b t) : W'.Still c a b t := by
  unfold Still Registered at *
  rw [hreferences]
  exact h

/-! ### The methods -/

end

namespace Anchored

variable {op : Op} {pos : Position} {size w : Nat} {v : Value}

lemma removeInternal {removed : Bool} (hA : W.Anchored temps) (h : W.Ownership temps)
    (hhosted : W.Hosted c a)
    (hlinked : ∀ v, findIn slot a forest 0 W.values = some v → W.RemovesLinked c v pos)
    (hstill : ∀ v, findIn slot a forest 0 W.values = some v → ∀ i, indexOf v pos = some i →
      v.label.kind.type = some .list → W.MovesStill c a v (i + 1))
    (hremove : W.removeInternal c a pos = .ok (removed, W')) : W'.Anchored temps := by
  obtain ⟨v, hderef, hcases⟩ := removeInternal_eq_ok hremove
  rcases hcases with ⟨-, -, rfl⟩ | ⟨i, b, t, W₁, hchild, -, hreferences, rfl⟩
  · exact hA
  · obtain ⟨hfind, -⟩ := deref_eq_ok hderef
    have hlinked := hlinked v hfind _ hchild
    obtain ⟨ht, rfl, hindex⟩ := childAt_eq_some hchild
    obtain ⟨u, hu, hinner⟩ := Ownership.exists_innerBlocks hfind (slot_block ht)
    obtain ⟨gone, hdropped, hself, hgone, -⟩ :=
      removeReferences_dropped (h.isOwner_eq_false hu hinner c) hreferences
    have hformed := formed_findIn forest 0 W.values hA.shape hfind
    refine hA.change (eraseChild i v) h hhosted hfind rfl (formed_eraseChild hformed i)
      hA.shape_temps
      (fun j s hs => ?_) (hdropped.changed_replace W₁.next)
    rcases lt_trichotomy j i with hlt | rfl | hgt
    · exact .inl (stays_eraseChild (.inl hlt))
    · obtain rfl := some.inj (ht.symm.trans hs)
      exact .inr (.inr (hA.gone_child h hhosted hfind ht hlinked hself hgone))
    · by_cases htype : v.label.kind.type = some .list
      · exact .inr (.inl ⟨remains_eraseChild v (ne_of_gt hgt),
          (hstill v hfind i hindex htype).still hgt hs⟩)
      · exact .inl (stays_eraseChild (.inr ⟨ne_of_gt hgt, htype⟩))

lemma setInternal {content : Value} {r : Addr × Nat}
    (hA : W.Anchored (content :: temps)) (h : W.Ownership (content :: temps))
    (hc : c < W.controllers) (hhosted : W.Hosted c a)
    (hlinked : ∀ v, findIn slot a forest 0 W.values = some v → W.RemovesLinked c v pos)
    (hstill : ∀ v, findIn slot a forest 0 W.values = some v → ∀ k, pos = .index k →
      Regrows v (k + 1) → W.MovesStill c a v 0)
    (hset : W.setInternal c a pos content = .ok (r, W')) : W'.Anchored temps := by
  obtain ⟨v, v', gone, -, -, hfind, hsetAt, -⟩ := h.setAt hc hset
  have hformed := formed_findIn forest 0 W.values hA.shape hfind
  have htemps := hA.shape_temps
  rw [formedIn, Bool.and_eq_true] at htemps
  obtain ⟨W₀, next, dependencies, hdropped, rfl, hkept⟩ := hsetAt.dropped
  refine hA.change _ h hhosted hfind hsetAt.cell (hsetAt.formed hformed htemps.1) htemps.2
    (fun j s hs => ?_) (hdropped.changed next fun p x hx hne => ?_)
  · cases hchild : childAt v pos with
    | some r =>
      obtain ⟨i, b, t⟩ := r
      obtain ⟨hself, hgone, hstays⟩ := hsetAt.replaced i b t hchild
      by_cases hj : j = i
      · subst hj
        have hlinked := hlinked v hfind _ hchild
        obtain ⟨ht, rfl, -⟩ := childAt_eq_some hchild
        obtain rfl := some.inj (ht.symm.trans hs)
        exact .inr (.inr (hA.gone_child h hhosted hfind ht hlinked hself hgone))
      · exact .inl (hstays j hj)
    | none =>
      obtain ⟨hremains, hstays⟩ := hsetAt.added hchild
      by_cases hregrows : ∀ k, pos = .index k → ¬ Regrows v (k + 1)
      · exact .inl (hstays hregrows j)
      · push Not at hregrows
        obtain ⟨k, hk, hregrows⟩ := hregrows
        exact .inr (.inl ⟨hremains j, (hstill v hfind k hk hregrows).still (zero_le _) hs⟩)
  · obtain ⟨hp, hx'⟩ := hne content mem_cons_self
    exact hkept p x hx hp hx'

section

variable (hA : W.Anchored temps) (h : W.Ownership temps)
include hA h

section

variable (hhosted : W.Hosted c a) (hfind : findIn slot a forest 0 W.values = some v)
include hhosted hfind

lemma clear (hlinked : W.Linked c a v)
    (hremove : W.removeDependencies c a = .ok W₁) :
    (W₁.replace a (cleared v) W₁.next).Anchored temps := by
  obtain ⟨gone, hdropped, hgone, -⟩ := removeDependencies_dropped hremove
  obtain ⟨u, w, hu, howner, hfindu⟩ := hhosted.tree h hfind
  refine hA.change (cleared v) h hhosted hfind rfl (formed_cleared v) hA.shape_temps
    (fun j s hs => .inr (.inr fun e he hregistered => ?_)) (hdropped.changed_replace W₁.next)
  obtain ⟨q, ctx, hperm, -⟩ := exists_context slot none (rootAddr u) u v hfindu
  refine gone_of_linked (q := q) hA h hu howner (fun e he => ?_) ?_ hlinked (fun x hx => ?_) e ?_
    hregistered
  · exact hperm.mem_iff.mpr (mem_append_left _ he)
  · have hnodup := (hperm.map (·.addr)).nodup_iff.mp (h.nodup_addrs hu)
    exact hnodup.sublist (List.Sublist.map _ (sublist_append_left _ _))
  · exact hgone x (Relation.TransGen.mono (fun p y hpy => hpy.1) _ _ hx)
  · refine (PlacedTree.mem_entriesIn slot (some a) v.label).mpr ⟨j, s, hs, ?_⟩
    rw [zero_add]
    exact he

lemma grow (htype : v.label.kind.type = some .list)
    (hstill : Regrows v size → W.MovesStill c a v 0) :
    (W.replace a (padTo size W.next v).1 (padTo size W.next v).2).Anchored temps := by
  have hformed := formed_findIn forest 0 W.values hA.shape hfind
  refine hA.change _ h hhosted hfind (built_padTo size W.next v).cell (formed_padTo hformed size W.next)
    hA.shape_temps (fun j s hs => ?_) ((Dropped.refl W c).changed_replace _)
  by_cases hregrows : Regrows v size
  · exact .inr (.inl ⟨remains_padTo htype j, (hstill hregrows).still (zero_le _) hs⟩)
  · exact .inl (stays_padTo _ htype hregrows j)

lemma linked_of_dropped {t : Value} {buffer spare i j : Nat} {gone : Addr → Bool}
    (hkind : v.label.kind = .list buffer spare)
    (ht : v.children[j]? = some t) (hlinked : W.Linked c (slot v.label j t.label) t)
    (hdropped : Dropped W W₁ c gone)
    (hgone : ∀ p x, gone p = true → p ≠ ⟨buffer, i⟩ → (p, x) ∈ (W.controller c).dependencyMap →
      gone x = true) : W₁.Linked c (slot v.label j t.label) t := by
  obtain ⟨u, w, hu, howner, hfindu⟩ := hhosted.tree h hfind
  have hregistered : ∀ x, W₁.Registered c x ↔ W.Registered c x ∧ gone x = false := by
    intro x
    simp [Registered, hdropped.references]
  intro e he hentry
  obtain ⟨hentry, hstays⟩ := (hregistered _).mp hentry
  rcases parent_memIn slot (some (slot v.label j t.label)) t.label 0 t.children e he with
    hparent | ⟨e', he', hparent⟩
  · exact .inl hparent
  rcases hlinked e he hentry with hparent' | ⟨p, hp, hp'⟩
  · exact .inl hparent'
  obtain rfl : e'.addr = p := some.inj (hparent.symm.trans hp)
  refine .inr ⟨e'.addr, hp, (hregistered _).mpr ⟨hp', ?_⟩⟩
  -- a dropped parent would have taken the entry along
  by_contra hgone'
  rw [Bool.not_eq_false] at hgone'
  have hmem : e ∈ u.entries slot none (rootAddr u) := by
    refine entriesIn_of_find hfindu e ((PlacedTree.mem_entriesIn slot (some a) v.label).mpr
      ⟨j, t, ht, ?_⟩)
    rw [zero_add, entries_eq]
    exact mem_cons_of_mem _ he
  have hdependency := hA.dependency h hu howner hmem hparent hentry
  refine Bool.false_ne_true (hstays.symm.trans (hgone e'.addr e.addr hgone' ?_ hdependency))
  intro heq
  have hblock : buffer ∈ blocksIn v.children := by
    have hblock := addr_blockIn (some (slot v.label j t.label)) t.label 0 t.children e' he'
    rw [heq] at hblock
    refine mem_blocksIn.mpr ⟨t, mem_of_getElem? ht, ?_⟩
    rw [blocks_eq, innerBlocks]
    exact mem_cons_of_mem _ hblock
  have h₁ := count_innerBlocks_find hfindu buffer
  have h₂ := count_blocks buffer u
  have h₃ := count_blocks_le (b := buffer) hu
  have h₄ := h.count_values_le_one buffer
  have h₅ := count_pos_iff.mpr hblock
  have h₆ : (innerBlocks v).count buffer = 1 + (blocksIn v.children).count buffer := by
    rw [count_innerBlocks]
    simp [Label.buffers, hkind]
  omega

lemma removeLast {n : Nat} {removed : Bool} (htype : v.label.kind.type = some .list)
    (hlength : v.children.length = size + n + 1)
    (hlinked : ∀ j t, size ≤ j → v.children[j]? = some t → W.Linked c (slot v.label j t.label) t)
    (hremove : W.removeInternal c a (.index (size + n)) = .ok (removed, W')) :
    W'.Anchored temps ∧ ∃ v', findIn slot a forest 0 W'.values = some v' ∧
      v'.label.kind.type = some .list ∧ v'.children.length = size + n ∧
      ∀ j t, size ≤ j → v'.children[j]? = some t → W'.Linked c (slot v'.label j t.label) t := by
  refine ⟨hA.removeInternal h hhosted (fun u hu r hr => ?_)
    (fun u hu i hi _ j hj hij => ?_) hremove, ?_⟩
  · obtain rfl := some.inj (hfind.symm.trans hu)
    obtain ⟨i, b, t⟩ := r
    obtain ⟨ht, rfl, hi⟩ := childAt_eq_some hr
    refine hlinked i t ?_ ht
    simp [indexOf, hlength] at hi
    omega
  · obtain rfl := some.inj (hfind.symm.trans hu)
    simp [indexOf, hlength] at hi
    omega
  obtain ⟨u, hderef, hcases⟩ := removeInternal_eq_ok hremove
  obtain ⟨hu, -⟩ := deref_eq_ok hderef
  obtain rfl := some.inj (hfind.symm.trans hu)
  obtain ⟨buffer, spare, hkind⟩ : ∃ buffer spare, v.label.kind = .list buffer spare := by
    cases hkind : v.label.kind <;> simp [hkind, Kind.type] at htype
    exact ⟨_, _, rfl⟩
  rcases hcases with ⟨hnone, -⟩ | ⟨i, b, t, W₁, hchild, -, hreferences, rfl⟩
  · have hnone := childAt_eq_none hnone
    simp [indexOf, hlength] at hnone
  · obtain ⟨ht, rfl, hi⟩ := childAt_eq_some hchild
    obtain rfl : size + n = i := by simpa [indexOf, hlength] using hi
    obtain ⟨u, hu, hinner⟩ := Ownership.exists_innerBlocks hfind (slot_block ht)
    obtain ⟨gone, hdropped, -, -, hgone⟩ :=
      removeReferences_dropped (h.isOwner_eq_false hu hinner c) hreferences
    have hfind₁ : findIn slot a forest 0 W₁.values = some v := by
      rw [hdropped.values]
      exact hfind
    refine ⟨eraseChild (size + n) v, findIn_replace hfind₁ (by rfl) _, ?_, ?_,
      fun j s hj hs => ?_⟩
    · rw [type_eraseChild, htype]
    · show (v.children.eraseIdx (size + n)).length = size + n
      rw [length_eraseIdx]
      split <;> omega
    · have hs : (v.children.eraseIdx (size + n))[j]? = some s := hs
      have hjn : j < size + n := by
        have := (List.getElem?_eq_some_iff.mp hs).1
        rw [length_eraseIdx] at this
        split at this <;> omega
      rw [getElem?_eraseIdx_of_lt hjn] at hs
      have hslot : slot v.label (size + n) t.label = ⟨buffer, size + n⟩ := by
        simp [slot, hkind]
      rw [hslot] at hgone
      rw [slot_eraseChild]
      exact (linked_of_dropped hA h hhosted hfind hkind hs (hlinked j s hj hs) hdropped hgone).congr rfl

end

end

lemma shrink : ∀ {n : Nat} {W : World} {v : Value}, W.Anchored temps →
    W.Ownership temps → W.Coherent temps → c < W.controllers → W.Hosted c a →
    findIn slot a forest 0 W.values = some v → v.label.kind.type = some .list →
    v.children.length = size + n →
    (∀ j t, size ≤ j → v.children[j]? = some t → W.Linked c (slot v.label j t.label) t) →
    World.shrink c a size n W = .ok W' → W'.Anchored temps
  | 0, W, v, hA, _, _, _, _, _, _, _, _, hshrink => by
    cases hshrink
    exact hA
  | n + 1, W, v, hA, h, hr, hc, hhosted, hfind, htype, hlength, hlinked, hshrink => by
    obtain ⟨⟨r, W₁⟩, hremove, hshrink⟩ := Fallible.bind_eq_ok_iff.mp hshrink
    obtain ⟨h₁, hcontrollers⟩ := h.removeInternal hc hremove
    obtain ⟨hr₁, hhosted₁⟩ := hr.removeInternal h hc hremove
    obtain ⟨hA₁, v', hfind', htype', hlength', hlinked'⟩ :=
      hA.removeLast h hhosted hfind htype hlength hlinked hremove
    exact shrink hA₁ h₁ hr₁ (by rw [hcontrollers]; exact hc) (hhosted₁ hhosted) hfind' htype' hlength'
      hlinked' hshrink

lemma copyOrDetachValue {held : List Nat} {n : Nat} (hA : W.Anchored temps)
    (h : W.Ownership temps) (hn : n ∈ held) (hbare : W.Bare w)
    (hcopy : W.copyOrDetachValue held w n = .ok (v, W')) : W'.Anchored (v :: temps) ∧
      (∀ t ∈ W'.values, t ∈ W.values) ∧
      ∀ c, (W'.controller c).referenceMap = (W.controller c).referenceMap := by
  by_cases hmode : (W.wrapper w).mode = .ownerWillDelete
  · obtain ⟨c, hattached, hcn, hv, hdetached⟩ := copyOrDetachValue_owner hcopy hmode
      (fun c a ha => (h.isOwner_iff ha).mpr hmode) hn
    have hbare := hbare.referenceMap hmode hattached
    refine ⟨hA.detached h hv hmode hattached hbare hdetached, fun t ht => ?_, fun c' => ?_⟩
    · rw [hdetached.values] at ht
      exact mem_of_mem_filter ht
    · by_cases hleft : c' = c
      · rw [hleft, hdetached.left, hbare]
        rfl
      · by_cases htaken : c' = n
        · rw [htaken, hdetached.taken]
          exact CefValueController.takeFrom_referenceMap_of_nil hbare
        · rw [hdetached.others c' htaken hleft]
  · obtain ⟨next, rfl, -, -, hformed, -⟩ := copyOrDetachValue_copy hcopy hmode
    exact ⟨hA.make next (hformed hA.shape), fun t ht => ht, fun c => rfl⟩

lemma swapValue {held : List Nat} {o arg i : Nat} {last : Bool} {t : Value} (hA : W.Anchored temps)
    (h : W.Ownership temps) (hc : c < W.controllers) (hhosted : W.Hosted c a)
    (hfind : findIn slot a forest 0 W.values = some v) (ht : v.children[i]? = some t)
    (hswap : W.swapValue held o arg c (slot v.label i t.label) a t.label.cell last = .ok W') :
    W'.Anchored temps := by
  obtain ⟨type, readOnly, object, hcases⟩ := swapValue_cases hswap
  obtain ⟨u, w, hu, hb, howner⟩ := hhosted.inner h hfind (slot_block ht)
  have href := (hA.getOrCreateRef h hhosted hfind ht type readOnly).setObjects object
    (W.getOrCreateRef c type (slot v.label i t.label) a readOnly t.label.cell).2.objects
  rcases hcases with rfl | hdestroy
  · exact href
  · exact href.destroy ((h.getOrCreateRef hu hb hc type a readOnly t.label.cell).setObjects _ _) hdestroy

lemma findIn_of_subset (h : W.Ownership temps) (hsub : ∀ t ∈ W₁.values, t ∈ W.values)
    (hfind : findIn slot a forest 0 W₁.values = some v) : findIn slot a forest 0 W.values = some v := by
  obtain ⟨l₁, t, l₂, hvalues, ht, -⟩ := forest_split hfind
  exact h.findIn_eq (hsub t (by rw [hvalues]; simp)) ht

lemma careful_of_target (hop : op.target = some (w, pos)) (hcareful : op.CarefulAt W c a v) :
    W.RemovesLinked c v pos ∧
      ∀ k, pos = .index k → Regrows v (k + 1) → W.MovesStill c a v 0 := by
  cases op <;> simp [Op.target, reduceCtorEq] at hop
  all_goals
    obtain ⟨rfl, rfl⟩ := hop
    refine ⟨hcareful.1, ?_⟩
    rintro k rfl
    exact hcareful.2

lemma receiver_of_target (hop : op.target = some (w, pos)) : op.receiver = some w := by
  cases op <;> simp_all [Op.target, Op.receiver]

/-- **A careful call keeps every registered value where its entries say.** -/
theorem step (hA : W.Anchored []) (h : W.Ownership []) (hr : W.Coherent [])
    (hcareful : W.Careful op) (hstep : W.step op = .ok W') : W'.Anchored [] := by
  cases step_effect hstep with
  | objects op object objects => exact hA.setObjects object objects
  | owner op type hle hcount hformed => exact hA.newOwner h type (hformed hA.shape)
  | reference op hw hv ht type readOnly object objects =>
    exact (hA.getOrCreateRef h (hr.hosted h hw hv) hv ht type readOnly).setObjects object objects
  | assign s hop hw hset =>
    obtain ⟨v, hv, -⟩ := find_of_setInternal hset
    have hA₁ : { W with next := W.next + 1 }.Anchored [leaf W.next (.scalar s)] := hA.make _ rfl
    obtain ⟨hlinked, hstill⟩ :=
      careful_of_target hop (hcareful.at (receiver_of_target hop) hw hv)
    refine hA₁.setInternal (h.makeLeaf s) (h.attached _ _ _ hw).2.2 (hr.hosted h hw hv)
      (fun u hu => ?_) (fun u hu => ?_) hset
    · obtain rfl := some.inj (hv.symm.trans hu)
      exact hlinked
    · obtain rfl := some.inj (hv.symm.trans hu)
      exact hstill
  | @transfer _ w arg c a pos content r W₁ W₂ _ hop harg hw hcopy hset hswap =>
    have hc := (h.attached _ _ _ hw).2.2
    obtain ⟨h₁, hcontrollers₁⟩ := h.copyOrDetachValue mem_cons_self hc hcopy
    obtain ⟨hr₁, hattached⟩ := hr.copyOrDetachValue h mem_cons_self (hcareful.1 arg harg) hcopy
    obtain ⟨hA₁, hsub, hreferences⟩ :=
      hA.copyOrDetachValue h mem_cons_self (hcareful.1 arg harg) hcopy
    obtain ⟨v, hv, -⟩ := find_of_setInternal hset
    obtain ⟨hlinked, hstill⟩ :=
      careful_of_target hop (hcareful.at (receiver_of_target hop) hw (findIn_of_subset h hsub hv))
    rw [← hcontrollers₁] at hc
    have hhosted := hr₁.hosted h₁ (hattached w a hw) hv
    have hA₂ : W₂.Anchored [] := by
      refine hA₁.setInternal h₁ hc hhosted (fun u hu => ?_) (fun u hu k hk hregrows => ?_) hset
      · obtain rfl := some.inj (hv.symm.trans hu)
        exact fun x hx => (hlinked x hx).congr (hreferences c)
      · obtain rfl := some.inj (hv.symm.trans hu)
        exact fun j hj hle t ht => (hstill k hk hregrows j hj hle t ht).congr (hreferences c)
    obtain ⟨h₂, hcontrollers₂, v', i, t, hv', ht, rfl⟩ := h₁.setInternal hc hset
    obtain ⟨-, hhosted₂⟩ := hr₁.setInternal h₁ hc hset
    rw [← hcontrollers₂] at hc
    rcases hswap with rfl | ⟨o, last, hswap⟩
    · exact hA₂
    · exact hA₂.swapValue h₂ hc (hhosted₂ hhosted) hv' ht hswap
  | @remove w c a pos removed _ hw hremove =>
    obtain ⟨v, hderef, -⟩ := removeInternal_eq_ok hremove
    obtain ⟨hv, -⟩ := deref_eq_ok hderef
    obtain ⟨hlinked, hstill⟩ : W.RemovesLinked c v pos ∧ ∀ i ∈ indexOf v pos,
        v.label.kind.type = some .list → W.MovesStill c a v (i + 1) := hcareful.at rfl hw hv
    refine hA.removeInternal h (hr.hosted h hw hv) (fun u hu => ?_) (fun u hu i hi htype => ?_) hremove
    · obtain rfl := some.inj (hv.symm.trans hu)
      exact hlinked
    · obtain rfl := some.inj (hv.symm.trans hu)
      exact hstill i hi htype
  | @clear w c a v W₁ hw hremove hv =>
    obtain ⟨gone, hdropped, -⟩ := removeDependencies_dropped hremove
    rw [hdropped.values] at hv
    exact hA.clear h (hr.hosted h hw hv) hv (hcareful.at rfl hw hv) hremove
  | @shrink w c size a v _ hw hv htype hshrink =>
    have hhosted := hr.hosted h hw hv
    have hlinked := (hcareful.at rfl hw hv : _ ∧ _).1
    rcases le_total v.children.length size with hle | hle
    · rw [Nat.sub_eq_zero_of_le hle] at hshrink
      cases hshrink
      exact hA
    · exact hA.shrink h hr (h.attached _ _ _ hw).2.2 hhosted hv htype (by omega)
        (fun j t hj ht => hlinked j (List.getElem?_eq_some_iff.mp ht).1 hj t ht) hshrink
  | @grow w c size a v hw hv htype hsize =>
    exact hA.grow h (hr.hosted h hw hv) hv htype (hcareful.at rfl hw hv : _ ∧ _).2
  | destroy hdestroy => exact hA.destroy h hdestroy

end Anchored

lemma ReferencesContained.of_anchored (h : W.Ownership []) (hr : W.Coherent [])
    (hA : W.Anchored []) : W.ReferencesContained := by
  intro w c x hmode ha
  obtain ⟨t, w', e, p, ht, howner, he, rfl, hcell, -⟩ :=
    hA.anchor c x w ((hr.entry_iff c x w).mpr ⟨hmode, ha⟩)
  have hne : t.find slot e.addr (rootAddr t) ≠ none := by
    rw [Ne, find_eq_none_iff slot none]
    exact fun hnone => hnone e he rfl
  obtain ⟨v, hv⟩ := ne_none_iff_exists'.mp hne
  obtain ⟨q, hsub⟩ := entries_of_find hv
  have hmem : ⟨q, e.addr, v.label⟩ ∈ t.entries slot none (rootAddr t) := by
    refine hsub _ ?_
    rw [entries_eq]
    exact mem_cons_self
  refine ⟨t, w', v, ht, howner, hv, ?_⟩
  rw [← hcell, h.entry_eq ht he hmem rfl]

lemma RegistryCoherent.of_coherent (h : W.Ownership []) (hr : W.Coherent [])
    (hcontained : W.ReferencesContained) : W.RegistryCoherent := by
  refine ⟨fun c x w => ?_, fun c x w hget => ?_, fun w c x ha => ?_⟩
  · rw [hr.entry_iff]
    exact ⟨fun hx => ⟨(h.attached w c x hx.2).1, hx⟩, fun hx => hx.2⟩
  · rcases CefValueController.get_eq_some hget with howner | hentry
    · have ha := ((h.owner_iff c x w).mp howner).2
      exact ⟨(h.attached w c x ha).1, ha⟩
    · have ha := ((hr.entry_iff c x w).mp hentry).2
      exact ⟨(h.attached w c x ha).1, ha⟩
  · cases hmode : (W.wrapper w).mode with
    | ownerNoDelete => exact ((h.attached w c x ha).2.1 hmode).elim
    | reference =>
      obtain ⟨t, w', v, ht, howner, hfind, -⟩ := hcontained w c x hmode ha
      exact ⟨t, w', ht, howner, by rw [hfind, isSome_some]⟩
    | ownerWillDelete =>
      have howner := (h.owner_iff c x w).mpr ⟨hmode, ha⟩
      obtain ⟨t, ht, rfl⟩ := h.root c x w howner
      exact ⟨t, w, ht, howner, by rw [find_self, isSome_some]⟩

/-- **The run rule**: careful calls keep all three invariants. -/
lemma anchored_of_along {ops : List Op} (halong : Along call Careful World.new ops)
    (hrun : ops.foldlM call World.new = some W) :
    W.Ownership [] ∧ W.Coherent [] ∧ W.Anchored [] := by
  refine Along.invariant
    (I := fun W => W.Ownership [] ∧ W.Coherent [] ∧ W.Anchored []) (fun W op W' hW hcareful hcall => ?_)
    ops World.new W ⟨Ownership.new, ?_, ?_⟩ halong hrun
  · have hstep := call_eq_some hcall
    obtain ⟨h, hr, hA⟩ := hW
    exact ⟨h.step hstep, hr.step h hcareful.1 hstep, hA.step h hr hcareful hstep⟩
  · refine ⟨?_, ?_, ?_⟩ <;> simp [World.new, CefValueController.new, noWrapper]
  · refine ⟨?_, ?_, ?_⟩ <;> simp [World.new, CefValueController.new, formedIn]

/-- **No wrapper is left behind**: in every state of every run of careful calls, from any number of
values made, an attached reference is to a value that is in the tree of its owner, and to the one that
it was made for. -/
theorem references_contained (ops : List Op) (W : World)
    (halong : Along call Careful World.new ops)
    (hrun : ops.foldlM call World.new = some W) : W.ReferencesContained := by
  obtain ⟨h, hr, hA⟩ := anchored_of_along halong hrun
  exact .of_anchored h hr hA

/-- A dictionary with a dictionary in a list is referred to on all levels, and the list is taken out
of its container. -/
def carefulRun : List Op :=
  [.create .dictionary [], .create .list [], .create .dictionary [], .setSize 1 2,
    .setObject 1 (.index 0) 2, .setObject 0 (.key "a") 1, .getRef 0 (.key "a") .list,
    .getRef 3 (.index 0) .dictionary, .setScalar 4 (.key "b") .null, .setScalar 3 (.index 1) .null,
    .removeAt 0 (.key "a")]

theorem references_contained_nested :
    ∃ W, carefulRun.foldlM call World.new = some W ∧ W.ReferencesContained := by
  have hsome : (carefulRun.foldlM call World.new).isSome = true := by decide +kernel
  obtain ⟨W, hrun⟩ := isSome_iff_exists.mp hsome
  exact ⟨W, hrun, references_contained carefulRun W (by decide +kernel) hrun⟩

def releasedParent : List Op :=
  [.create .dictionary [], .create .dictionary [], .create .dictionary [], .setObject 1 (.key "b") 2,
    .setObject 0 (.key "a") 1, .getRef 0 (.key "a") .dictionary, .getRef 3 (.key "b") .dictionary,
    .destroy 3, .clear 0]

/-- The wrapper of what was deep in the container stays attached. -/
theorem released_parent_not_contained : ¬ ∀ (ops : List Op) (W : World),
    ops.foldlM call World.new = some W → W.ReferencesContained := by
  intro h
  have hsome : (releasedParent.foldlM call World.new).isSome = true := by decide +kernel
  have hlost : ∀ W ∈ releasedParent.foldlM call World.new, (W.wrapper 4).mode = .reference ∧
      ∃ o ∈ (W.wrapper 4).attachment, ∀ t ∈ W.values, t.find slot o.2 (rootAddr t) = none := by
    decide +kernel
  obtain ⟨W, hrun⟩ := isSome_iff_exists.mp hsome
  obtain ⟨hmode, ⟨c, x⟩, ha, hnone⟩ := hlost W hrun
  obtain ⟨t, w, v, ht, -, hfind, -⟩ := h releasedParent W hrun 4 c x hmode ha
  rw [hnone t ht] at hfind
  cases hfind

/-- **The registry is coherent** in every state of every run of careful calls, from any number of
values made. -/
theorem registry_coherent (ops : List Op) (W : World)
    (halong : Along call Careful World.new ops)
    (hrun : ops.foldlM call World.new = some W) : W.RegistryCoherent := by
  obtain ⟨h, hr, hA⟩ := anchored_of_along halong hrun
  exact .of_coherent h hr (.of_anchored h hr hA)

/-- A dictionary is put into another one, and then referred to, changed and given up, while one in a
list is still referred to. -/
def nestedRun : List Op :=
  [.create .dictionary [], .create .dictionary [], .setObject 0 (.key "a") 1,
    .getRef 0 (.key "a") .dictionary, .setScalar 2 (.key "b") .null, .create .list [],
    .create .dictionary [], .setSize 3 1, .setObject 3 (.index 0) 4, .getRef 3 (.index 0) .dictionary,
    .removeAt 0 (.key "a"), .destroy 2]

theorem registry_coherent_nested :
    ∃ W, nestedRun.foldlM call World.new = some W ∧ W.RegistryCoherent ∧
      ((W.wrapper 5).attachment.map (·.1)) = some 2 := by
  have hsome : (nestedRun.foldlM call World.new).isSome = true := by decide +kernel
  have hattached : ∀ W ∈ nestedRun.foldlM call World.new,
      ((W.wrapper 5).attachment.map (·.1)) = some 2 := by decide +kernel
  obtain ⟨W, hrun⟩ := isSome_iff_exists.mp hsome
  exact ⟨W, hrun, registry_coherent nestedRun W (by decide +kernel) hrun, hattached W hrun⟩

/-- A dictionary is put into another one while a wrapper refers to a dictionary in it: that wrapper
stays attached to the controller that it was made with, and its entry does not stay there. -/
theorem taken_entry_not_coherent : ¬ ∀ (ops : List Op) (W : World),
    ops.foldlM call World.new = some W → W.RegistryCoherent := by
  intro h
  have hcoherent := h [.create .dictionary [], .create .dictionary [], .create .dictionary [],
    .setObject 1 (.key "b") 2, .getRef 1 (.key "b") .dictionary, .setObject 0 (.key "a") 1] _ rfl
  have hentry := (hcoherent.entry_iff 0 ⟨3, 0⟩ 3).mp (by decide +kernel)
  exact absurd hentry.2.2 (by decide +kernel)

end CefCore.Values.World
