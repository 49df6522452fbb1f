import CefCore.Values.Registry

/-!
# Calls that return

A method crashes when a controller has to notify a wrapper that has been destroyed, or when it follows
an address where nothing of the type is any more. As long as the registered wrappers are alive, what
the methods do to a container that is there goes through.

## Main results

* `removeInternal_returns`: a removal returns.
-/

namespace CefCore.Values.World

open PlacedTree List

variable {W W' : World} {c : Nat} {a b : Addr} {temps : List Value}

def RegisteredAlive (W : World) : Prop :=
  ∀ c, ∀ e ∈ (W.controller c).referenceMap, (W.wrapper e.2).alive = true

lemma Coherent.registeredAlive (hr : W.Coherent temps) (h : W.Ownership temps) :
    W.RegisteredAlive := by
  intro c e he
  obtain ⟨x, w⟩ := e
  exact (h.attached w c x ((hr.entry_iff c x w).mp he).2).1

lemma RegisteredAlive.dropped {gone : Addr → Bool} (h : W.RegisteredAlive)
    (hdropped : Dropped W W' c gone) : W'.RegisteredAlive := by
  intro c' e he
  have hmem : e ∈ (W.controller c').referenceMap := by
    by_cases heq : c' = c
    · subst heq
      rw [hdropped.references] at he
      exact (mem_filter.mp he).1
    · rw [hdropped.others c' heq] at he
      exact he
  rw [hdropped.wrapper]
  split <;> exact h c' e hmem

lemma notify_returns {ids : List Nat} (h : ∀ w ∈ ids, (W.wrapper w).alive = true) :
    ∃ W', W.notify ids = .ok W' := by
  unfold notify
  rw [if_pos (all_eq_true.mpr h)]
  exact ⟨_, rfl⟩

lemma remove_notified (x : CefValueController) (value : Addr) (notifyObject : Bool) :
    (x.remove value notifyObject).2 ⊆ x.referenceMap.map (·.2) := by
  unfold CefValueController.remove
  split
  · exact List.Subset.refl _
  · cases notifyObject with
    | true => exact map_subset _ (filter_subset_self _)
    | false => exact nil_subset _

lemma remove_returns (h : W.RegisteredAlive) (c : Nat) (value : Addr) (notifyObject : Bool) :
    ∃ W', W.remove c value notifyObject = .ok W' := by
  refine notify_returns fun w (hw : w ∈ ((W.controller c).remove value notifyObject).2) => ?_
  obtain ⟨e, he, rfl⟩ := mem_map.mp (remove_notified _ _ _ hw)
  exact h c e he

lemma removeDependencies_returns (h : W.RegisteredAlive) (c : Nat) (value : Addr) :
    ∃ W', W.removeDependencies c value = .ok W' := by
  refine notify_returns fun w hw => ?_
  obtain ⟨e, he, rfl⟩ := mem_map.mp hw
  exact h c e (mem_filter.mp he).1

lemma removeReferences_returns (h : W.RegisteredAlive) (hb : (W.controller c).isOwner b = false)
    (kind : Kind) : ∃ W', W.removeReferences c b kind = .ok W' := by
  obtain ⟨W₁, hremove⟩ := remove_returns h c b true
  have h₁ := h.dropped (remove_dropped hb hremove)
  unfold removeReferences
  rw [hremove]
  cases kind.isContainer with
  | true => exact removeDependencies_returns h₁ c b
  | false => exact ⟨W₁, rfl⟩

lemma deref_of_find {type : ValueType} {v : Value} (h : findIn slot a forest 0 W.values = some v)
    (htype : v.label.kind.type = some type) : W.deref a type = .ok v := by
  unfold deref
  rw [h]
  exact if_pos htype

/-- **`RemoveInternal` returns.** It erases the child that is there, after the references to it have
been dropped; if there is none it changes nothing. -/
theorem removeInternal_returns {v : Value} (pos : Position) (h : W.Ownership temps)
    (halive : W.RegisteredAlive) (hfind : findIn slot a forest 0 W.values = some v)
    (htype : v.label.kind.type = some (containerType pos)) :
    (childAt v pos = none → W.removeInternal c a pos = .ok (false, W)) ∧
    ∀ i b t, childAt v pos = some (i, b, t) → ∃ W₁ gone, Dropped W W₁ c gone ∧ gone b = true ∧
      W.removeInternal c a pos = .ok (true, W₁.replace a (eraseChild i v) W₁.next) := by
  have hderef := deref_of_find hfind htype
  constructor
  · intro hnone
    simp [removeInternal, hderef, hnone, bind, pure, Except.bind, Except.pure]
  · intro i b t hchild
    obtain ⟨ht, rfl, -⟩ := childAt_eq_some hchild
    obtain ⟨u, hu, hinner⟩ := Ownership.exists_innerBlocks hfind (slot_block ht)
    have hb := h.isOwner_eq_false hu hinner c
    obtain ⟨W₁, hreferences⟩ := removeReferences_returns halive hb t.label.kind
    obtain ⟨gone, hdropped, hgone, -⟩ := removeReferences_dropped hb hreferences
    refine ⟨W₁, gone, hdropped, hgone, ?_⟩
    simp [removeInternal, hderef, hchild, hreferences, bind, pure, Except.bind, Except.pure]

end CefCore.Values.World
