import CefCore.Values.Locking
import CefCore.Values.Shape

/-!
# What a call does

Each method of the wrappers, taken apart: what it reads, which references it drops, and which
container it changes. The invariants of the later files are proved from these descriptions.

## Main results

* `step_effect`: what a call does.
-/

namespace CefCore.Values.World

open PlacedTree List Option Fallible Except CefValueController Function Nat Worklist

variable {W W' W₁ : World} {c : Nat} {a b : Addr}

/-! ### Memory -/

variable {W₂ : World} {held : List Nat} {pos : Position} {v v' : Value} {w : Nat}

lemma forest_split {x : Addr} : ∀ {i : Nat} {ts : List Value},
    findIn slot x forest i ts = some v → ∃ l₁ t l₂, ts = l₁ ++ t :: l₂ ∧
      t.find slot x (rootAddr t) = some v ∧
      ∀ f, modifyIn slot x f forest i ts = l₁ ++ t.modify slot x f (rootAddr t) :: l₂
  | i, [], h => by simp [findIn] at h
  | i, t :: ts, h => by
    cases hfind : t.find slot x (slot forest i t.label) with
    | some s =>
      rw [findIn_cons_of_find slot hfind, some.injEq] at h
      subst h
      exact ⟨[], t, ts, rfl, hfind, fun f => modifyIn_cons_of_find slot hfind⟩
    | none =>
      rw [findIn_cons_of_none slot hfind] at h
      obtain ⟨l₁, u, l₂, rfl, hu, hmodify⟩ := forest_split h
      refine ⟨t :: l₁, u, l₂, rfl, hu, fun f => ?_⟩
      rw [modifyIn_cons_of_none slot hfind, hmodify, cons_append]

lemma findIn_ne_none {x : Addr} {t : Value} : ∀ {i : Nat} {ts : List Value}, t ∈ ts →
    t.find slot x (rootAddr t) = some v → findIn slot x forest i ts ≠ none
  | i, [], ht, _ => by simp at ht
  | i, u :: ts, ht, hfind => by
    rw [findIn, Ne, or_eq_none_iff, not_and_or]
    rcases mem_cons.mp ht with rfl | ht
    · left
      show ¬ t.find slot x (rootAddr t) = none
      simp [hfind]
    · exact .inr (findIn_ne_none ht hfind)

lemma deref_eq_ok {type : ValueType} (h : W.deref a type = .ok v) :
    findIn slot a forest 0 W.values = some v ∧ v.label.kind.type = some type := by
  unfold deref at h
  split at h
  · simp at h
  · rename_i u hfind
    split at h
    · rename_i htype
      cases h
      exact ⟨hfind, htype⟩
    · simp at h

lemma slot_congr (h : v'.label.cell = v.label.cell) (p : Label) (i : Nat) :
    slot p i v'.label = slot p i v.label := by
  unfold slot
  rw [h]

lemma findIn_replace (h : findIn slot a forest 0 W.values = some v)
    (hcell : v'.label.cell = v.label.cell) (next : Nat) :
    findIn slot a forest 0 (W.replace a v' next).values = some v' :=
  findIn_modifyIn slot (f := fun _ => v') (slot_congr hcell) forest 0 W.values h

lemma replace_replace {v'' : Value} (h : findIn slot a forest 0 W.values = some v)
    (hcell : v'.label.cell = v.label.cell) (next next' : Nat) :
    (W.replace a v' next).replace a v'' next' = W.replace a v'' next' := by
  have := modifyIn_modifyIn slot (f := fun _ => v') (g := fun _ => v'') (slot_congr hcell) forest 0
    W.values h
  simp only [replace, this]
  rfl

/-! ### References that are dropped -/

/-- The references of the controller `c` to the values in `gone` have been dropped, and the
wrappers are detached. Dependencies of other values are still there, and there are no new ones. -/
structure Dropped (W W' : World) (c : Nat) (gone : Addr → Bool) : Prop where
  values : W'.values = W.values
  object : W'.object = W.object
  controllers : W'.controllers = W.controllers
  wrappers : W'.wrappers = W.wrappers
  objects : W'.objects = W.objects
  next : W'.next = W.next
  others : ∀ c', c' ≠ c → W'.controller c' = W.controller c'
  owner : (W'.controller c).owner = (W.controller c).owner
  references : (W'.controller c).referenceMap =
    (W.controller c).referenceMap.filter fun e => !gone e.1
  dependencies : ∀ p x, (p, x) ∈ (W.controller c).dependencyMap → gone x = false →
    (p, x) ∈ (W'.controller c).dependencyMap
  sublist : (W'.controller c).dependencyMap.Sublist (W.controller c).dependencyMap
  wrapper : ∀ w, W'.wrapper w =
    if w ∈ ((W.controller c).referenceMap.filter fun e => gone e.1).map (·.2)
      then (W.wrapper w).detach else W.wrapper w
  alive : ∀ x w, (x, w) ∈ (W.controller c).referenceMap → gone x = true →
    (W.wrapper w).alive = true

lemma Dropped.refl (W : World) (c : Nat) : Dropped W W c fun _ => false := by
  refine ⟨rfl, rfl, rfl, rfl, rfl, rfl, fun _ _ => rfl, rfl, by simp, fun _ _ h _ => h,
    List.Sublist.refl _, fun w => ?_, fun _ _ _ h => by cases h⟩
  rw [if_neg (by simp)]

lemma notify_eq_ok {ids : List Nat} (h : W.notify ids = .ok W') :
    (∀ w ∈ ids, (W.wrapper w).alive = true) ∧ W' = { W with
      wrapper := fun w => if w ∈ ids then (W.wrapper w).detach else W.wrapper w } := by
  unfold notify at h
  split at h
  · rename_i halive
    exact ⟨all_eq_true.mp halive, (ok.inj h).symm⟩
  · simp at h

lemma dropped_of_notify {x : CefValueController} {gone : Addr → Bool} {ids : List Nat}
    (h : (W.setController c x).notify ids = .ok W') (howner : x.owner = (W.controller c).owner)
    (hrefs : x.referenceMap = (W.controller c).referenceMap.filter fun e => !gone e.1)
    (hids : ids = ((W.controller c).referenceMap.filter fun e => gone e.1).map (·.2))
    (hdeps : ∀ p y, (p, y) ∈ (W.controller c).dependencyMap → gone y = false →
      (p, y) ∈ x.dependencyMap)
    (hfewer : x.dependencyMap.Sublist (W.controller c).dependencyMap) : Dropped W W' c gone := by
  obtain ⟨halive, rfl⟩ := notify_eq_ok h
  have hself : Function.update W.controller c x c = x := update_self _ _ _
  refine ⟨rfl, rfl, rfl, rfl, rfl, rfl, ?_, ?_, ?_, ?_, ?_, ?_, ?_⟩
  · exact fun c' hc' => update_of_ne hc' _ _
  · rw [← howner]
    exact congrArg _ hself
  · rw [← hrefs]
    exact congrArg _ hself
  · intro p y hy hgone
    have := hdeps p y hy hgone
    simp only [setController, hself]
    exact this
  · simp only [setController, hself]
    exact hfewer
  · intro w
    rw [← hids]
    rfl
  · intro y w hy hgone
    refine halive w ?_
    rw [hids]
    exact mem_map.mpr ⟨(y, w), mem_filter.mpr ⟨hy, hgone⟩, rfl⟩

lemma Dropped.trans {gone gone' : Addr → Bool} (h : Dropped W W₁ c gone)
    (h' : Dropped W₁ W₂ c gone') : Dropped W W₂ c fun x => gone x || gone' x := by
  have hrefs : ((W.controller c).referenceMap.filter fun e => !gone e.1).filter
      (fun e => gone' e.1) = (W.controller c).referenceMap.filter
        fun e => gone' e.1 && !gone e.1 := filter_filter
  refine ⟨h'.values.trans h.values, h'.object.trans h.object, h'.controllers.trans h.controllers,
    h'.wrappers.trans h.wrappers, h'.objects.trans h.objects, h'.next.trans h.next, ?_,
    h'.owner.trans h.owner, ?_, ?_, h'.sublist.trans h.sublist, ?_, ?_⟩
  · exact fun c' hc' => (h'.others c' hc').trans (h.others c' hc')
  · rw [h'.references, h.references, List.filter_filter]
    refine filter_congr fun e _ => ?_
    cases gone e.1 <;> simp
  · intro p x hx hgone
    rw [Bool.or_eq_false_iff] at hgone
    exact h'.dependencies p x (h.dependencies p x hx hgone.1) hgone.2
  · intro w
    rw [h'.wrapper w, h.wrapper w, h.references, hrefs]
    have hmem : w ∈ ((W.controller c).referenceMap.filter fun e => gone e.1 || gone' e.1).map
        (·.2) ↔ w ∈ ((W.controller c).referenceMap.filter fun e => gone e.1).map (·.2) ∨
          w ∈ ((W.controller c).referenceMap.filter fun e => gone' e.1 && !gone e.1).map (·.2) := by
      simp only [List.mem_map, mem_filter, Bool.or_eq_true, Bool.and_eq_true, Bool.not_eq_true']
      constructor
      · rintro ⟨e, ⟨he, hgone⟩, rfl⟩
        cases hg : gone e.1 with
        | true => exact Or.inl ⟨e, ⟨he, hg⟩, rfl⟩
        | false => exact Or.inr ⟨e, ⟨he, by simpa [hg] using hgone, hg⟩, rfl⟩
      · rintro (⟨e, ⟨he, hg⟩, rfl⟩ | ⟨e, ⟨he, hg, -⟩, rfl⟩)
        · exact ⟨e, ⟨he, Or.inl hg⟩, rfl⟩
        · exact ⟨e, ⟨he, Or.inr hg⟩, rfl⟩
    simp only [hmem]
    split
    · rename_i h₂
      rw [if_pos (Or.inr h₂)]
      split <;> rfl
    · rename_i h₂
      simp only [h₂, or_false]
  · intro x w hx hgone
    cases hg : gone x with
    | true => exact h.alive x w hx hg
    | false =>
      have hx' : (x, w) ∈ (W₁.controller c).referenceMap := by
        rw [h.references]
        exact mem_filter.mpr ⟨hx, by simp [hg]⟩
      have := h'.alive x w hx' (by simpa [hg] using hgone)
      rw [h.wrapper w] at this
      split at this <;> exact this

lemma remove_dropped (hb : (W.controller c).isOwner b = false) (h : W.remove c b true = .ok W') :
    Dropped W W' c fun x => x = b := by
  unfold remove at h
  have hremove : (W.controller c).remove b true = ({ W.controller c with
      referenceMap := (W.controller c).referenceMap.filter fun e => e.1 ≠ b
      dependencyMap := (W.controller c).dependencyMap.filter fun e => e.2 ≠ b },
      ((W.controller c).referenceMap.filter fun e => e.1 = b).map (·.2)) := by
    simp [CefValueController.remove, hb]
  rw [hremove] at h
  refine dropped_of_notify h rfl ?_ rfl (fun p y hy hgone => ?_) filter_sublist
  · simp
  · refine mem_filter.mpr ⟨hy, ?_⟩
    simpa using hgone

lemma remove_isOwner {notifyObject : Bool} (ha : (W.controller c).isOwner a = true)
    (h : W.remove c a notifyObject = .ok W') : W' = { W.setController c CefValueController.new with
      wrapper := fun w => if w ∈ (W.controller c).referenceMap.map (·.2)
        then (W.wrapper w).detach else W.wrapper w } := by
  have hremove : (W.controller c).remove a notifyObject =
      (CefValueController.new, (W.controller c).referenceMap.map (·.2)) := by
    rw [CefValueController.remove, if_pos ha]
  unfold remove at h
  rw [hremove] at h
  exact (notify_eq_ok h).2

/-- What the loop of `RemoveDependencies` takes out, and the dependencies that it leaves. -/
def drained (W : World) (c : Nat) (a : Addr) : List Addr × List (Addr × Addr) :=
  Worklist.drain (W.controller c).dependencyMap.length
    (Worklist.successors (W.controller c).dependencyMap a)
    ((W.controller c).dependencyMap.filter fun e => e.1 ≠ a) []

lemma removeDependencies_drained (h : W.removeDependencies c a = .ok W') :
    Dropped W W' c (fun x => x ∈ (W.drained c a).1) ∧
      (W'.controller c).dependencyMap = (W.drained c a).2 := by
  unfold removeDependencies CefValueController.removeDependencies at h
  refine ⟨dropped_of_notify h rfl (by simp [drained]) (by simp [drained]) (fun p y hy hgone => ?_)
    ((drain_edges_sublist _ _ _ _).trans filter_sublist), ?_⟩
  · exact mem_drain_edges_of_target (le_refl _) hy (of_decide_eq_false hgone)
  · obtain ⟨-, rfl⟩ := notify_eq_ok h
    simp only [setController, update_self]
    rfl

lemma removeDependencies_dropped (h : W.removeDependencies c a = .ok W') :
    ∃ gone, Dropped W W' c gone ∧
      (∀ x, Relation.TransGen (fun p x => (p, x) ∈ (W.controller c).dependencyMap) a x →
        gone x = true) ∧
      ∀ p x, gone p = true → (p, x) ∈ (W.controller c).dependencyMap → gone x = true := by
  refine ⟨_, (removeDependencies_drained h).1, fun x hx => ?_, fun p x hp hx => ?_⟩
  · exact decide_eq_true (mem_drain_of_transGen (le_refl _) hx)
  · exact decide_eq_true
      (mem_drain_of_edge (le_refl _) hx (.inr (of_decide_eq_true hp)))

lemma removeReferences_dropped {kind : Kind} (hb : (W.controller c).isOwner b = false)
    (h : W.removeReferences c b kind = .ok W') :
    ∃ gone, Dropped W W' c gone ∧ gone b = true ∧ (kind.isContainer = true → ∀ x,
      Relation.TransGen (fun p x => (p, x) ∈ (W.controller c).dependencyMap ∧ x ≠ b) b x →
        gone x = true) ∧
      ∀ p x, gone p = true → p ≠ b → (p, x) ∈ (W.controller c).dependencyMap → gone x = true := by
  obtain ⟨W₁, hremove, h⟩ := bind_eq_ok_iff.mp h
  have hdropped := remove_dropped hb hremove
  split at h
  · obtain ⟨gone, hdropped', hgone, hclosed⟩ := removeDependencies_dropped h
    refine ⟨_, hdropped.trans hdropped', by simp, fun _ x hx => ?_, fun p x hp hpb hx => ?_⟩
    · have hsub : Relation.TransGen (fun p x => (p, x) ∈ (W₁.controller c).dependencyMap) b x := by
        refine Relation.TransGen.mono (fun p y hpy => ?_) _ _ hx
        exact hdropped.dependencies p y hpy.1 (by simpa using hpy.2)
      simp [hgone x hsub]
    · by_cases hxb : x = b
      · simp [hxb]
      · have hp : gone p = true := by simpa [hpb] using hp
        simp [hclosed p x hp (hdropped.dependencies p x hx (by simpa using hxb))]
  · rename_i hkind
    cases h
    refine ⟨_, hdropped, by simp, fun hcontainer => absurd hcontainer hkind, fun p x hp hpb => ?_⟩
    exact absurd (by simpa using hp) hpb

/-! ### The methods -/

lemma method_eq_ok {α : Type} {modify : Bool} {x y : α} {f : Nat → Addr → List Nat → Except Fault α}
    (h : (W.verify [] w modify >>= fun r => match r with
      | none => pure x
      | some (c, a, held) => f c a held) = .ok y) :
    y = x ∨ ∃ c a, (W.wrapper w).attachment = some (c, a) ∧ f c a [c] = .ok y := by
  obtain ⟨r, hr, h⟩ := bind_eq_ok_iff.mp h
  split at h
  · exact .inl (ok.inj h).symm
  · rename_i c a held
    obtain ⟨hattached, -, rfl, -⟩ := verify_eq_some hr
    exact .inr ⟨c, a, hattached, h⟩

lemma verify_eq_none (h : W.verify held w false = .ok none) : (W.wrapper w).attachment = none := by
  unfold verify at h
  split at h
  · assumption
  · obtain ⟨held', -, h⟩ := bind_eq_ok_iff.mp h
    simp at h

lemma childAt_eq_some {t : Value} {i : Nat} (h : childAt v pos = some (i, b, t)) :
    v.children[i]? = some t ∧ b = slot v.label i t.label ∧ indexOf v pos = some i := by
  unfold childAt at h
  split at h
  · simp at h
  · rename_i j hj
    obtain ⟨u, hu, h⟩ := map_eq_some_iff.mp h
    obtain ⟨rfl, rfl, rfl⟩ : j = i ∧ slot v.label j u.label = b ∧ u = t := by simpa using h
    exact ⟨hu, rfl, hj⟩

lemma indexOf_lt {i : Nat} (h : indexOf v pos = some i) : i < v.children.length := by
  cases pos with
  | key key =>
    obtain ⟨hlt, -⟩ := findIdx?_eq_some_iff_getElem.mp h
    exact hlt
  | index k =>
    have h : (if k < v.children.length then some k else none) = some i := h
    split at h
    · rename_i hlt
      rw [← some.inj h]
      exact hlt
    · cases h

lemma childAt_eq_none (h : childAt v pos = none) : indexOf v pos = none := by
  unfold childAt at h
  split at h
  · assumption
  · rename_i i hi
    rw [getElem?_eq_getElem (indexOf_lt hi)] at h
    cases h

lemma removeInternal_eq_ok {removed : Bool} (h : W.removeInternal c a pos = .ok (removed, W')) :
    ∃ v, W.deref a (containerType pos) = .ok v ∧
      (childAt v pos = none ∧ removed = false ∧ W' = W ∨
        ∃ i b t W₁, childAt v pos = some (i, b, t) ∧ removed = true ∧
          W.removeReferences c b t.label.kind = .ok W₁ ∧
          W' = W₁.replace a (eraseChild i v) W₁.next) := by
  obtain ⟨v, hv, h⟩ := bind_eq_ok_iff.mp h
  refine ⟨v, hv, ?_⟩
  split at h
  · rename_i hchild
    cases h
    exact .inl ⟨hchild, rfl, rfl⟩
  · rename_i i b t hchild
    obtain ⟨W₁, hW₁, h⟩ := bind_eq_ok_iff.mp h
    cases h
    exact .inr ⟨i, b, t, W₁, hchild, rfl, hW₁, rfl⟩

lemma built_place (v : Value) (pos : Position) (removed : Bool) (content : Value) (next : Nat) :
    Built v (innerBlocks content) next (place v pos removed content next).1
      (place v pos removed content next).2.1 := by
  cases pos with
  | key key => exact built_insertEntry next key content v
  | index i =>
    cases removed with
    | true => exact built_insertElement next i content v
    | false => exact (built_padTo (i + 1) next v).trans (built_assignElement _ i content _)

lemma setInternal_eq_ok {content : Value} {r : Addr × Nat}
    (h : W.setInternal c a pos content = .ok (r, W')) :
    ∃ removed W₁ v t, W.removeInternal c a pos = .ok (removed, W₁) ∧
      W₁.deref a (containerType pos) = .ok v ∧
      (place v pos removed content W₁.next).1.children[(place v pos removed content W₁.next).2.2]? =
        some t ∧
      r.1 = slot (place v pos removed content W₁.next).1.label
        (place v pos removed content W₁.next).2.2 t.label ∧
      r.2 = t.label.cell ∧
      W' = (W₁.replace a (place v pos removed content W₁.next).1
        (place v pos removed content W₁.next).2.1).setController c
          ((W₁.controller c).swap (rootAddr content) r.1) := by
  obtain ⟨⟨removed, W₁⟩, hremove, h⟩ := bind_eq_ok_iff.mp h
  obtain ⟨v, hv, h⟩ := bind_eq_ok_iff.mp h
  dsimp only at h
  split at h
  · simp at h
  · rename_i t ht
    cases h
    exact ⟨removed, W₁, v, t, hremove, hv, ht, rfl, rfl, rfl⟩

/-- `GetOrCreateRef`, if it makes a wrapper. -/
structure NewReference (W W' : World) (c : Nat) (x parent : Addr) (new : Wrapper) : Prop where
  values : W'.values = W.values
  next : W'.next = W.next
  controllers : W'.controllers = W.controllers
  wrappers : W'.wrappers = W.wrappers + 1
  others : ∀ c', c' ≠ c → W'.controller c' = W.controller c'
  owner : (W'.controller c).owner = (W.controller c).owner
  unowned : (W.controller c).isOwner x = false
  key : ∀ e ∈ (W.controller c).referenceMap, e.1 ≠ x
  references : (W'.controller c).referenceMap = (x, W.wrappers) :: (W.controller c).referenceMap
  dependency : (parent, x) ∈ (W'.controller c).dependencyMap
  dependencies : ∀ e ∈ (W.controller c).dependencyMap, e ∈ (W'.controller c).dependencyMap
  added : (W'.controller c).dependencyMap =
    ((W.controller c).addDependency parent x).dependencyMap
  wrapper : ∀ w, W'.wrapper w = if w = W.wrappers then new else W.wrapper w

lemma getOrCreateRef_cases (W : World) (c : Nat) (type : ValueType) (x parent : Addr)
    (readOnly : Bool) (element : Nat) :
    (∃ w, (W.controller c).get x = some w ∧
      W.getOrCreateRef c type x parent readOnly element = (w, W)) ∨
    ((W.getOrCreateRef c type x parent readOnly element).1 = W.wrappers ∧
      NewReference W (W.getOrCreateRef c type x parent readOnly element).2 c x parent
        ⟨type, .reference, readOnly, some (c, x), true, element⟩) := by
  unfold getOrCreateRef
  cases hget : (W.controller c).get x with
  | some w => exact .inl ⟨w, rfl, rfl⟩
  | none =>
    obtain ⟨hunowned, hreference⟩ := get_eq_none_iff.mp hget
    have hkey := reference_eq_none_iff.mp hreference
    have hself : ∀ f, Function.update W.controller c f c = f := fun f =>
      update_self _ _ _
    refine .inr ⟨rfl, ⟨rfl, rfl, rfl, rfl, fun c' hc' => ?_, ?_, hunowned, hkey, ?_, ?_,
      fun e he => ?_, ?_, fun w => ?_⟩⟩
    · simp [hc']
    · simp [addReference_of_none hreference]
    · simp [addReference_of_none hreference]
    · simp only [hself, mem_addDependency, true_or]
    · simp only [hself, mem_addDependency, addReference_of_none hreference]
      exact .inr he
    · simp only [hself, addReference_of_none hreference, CefValueController.addDependency]
      split <;> rfl
    · simp [update_apply]

lemma find_of_setInternal {content : Value} {r : Addr × Nat}
    (h : W.setInternal c a pos content = .ok (r, W')) :
    ∃ v, findIn slot a forest 0 W.values = some v ∧ v.label.kind.type = some (containerType pos) := by
  obtain ⟨removed, W₁, -, -, hremove, -⟩ := setInternal_eq_ok h
  obtain ⟨v, hderef, -⟩ := removeInternal_eq_ok hremove
  exact ⟨v, deref_eq_ok hderef⟩

/-- `Detach` of an owner with a new controller `n`. -/
structure Detached (W W' : World) (w c n : Nat) (v : Value) : Prop where
  values : W'.values = W.values.filter fun u => rootAddr u ≠ rootAddr v
  next : W'.next = W.next
  controllers : W'.controllers = W.controllers
  wrappers : W'.wrappers = W.wrappers
  taken : W'.controller n = ((W.controller n).takeFrom (W.controller c)).1
  left : W'.controller c = CefValueController.new
  others : ∀ c', c' ≠ n → c' ≠ c → W'.controller c' = W.controller c'
  wrapper : ∀ w', W'.wrapper w' = if w' = w then (W.wrapper w).detach else W.wrapper w'

lemma copyOrDetachValue_owner {n : Nat}
    (h : W.copyOrDetachValue held w n = .ok (v, W')) (hmode : (W.wrapper w).mode = .ownerWillDelete)
    (howner : ∀ c a, (W.wrapper w).attachment = some (c, a) → (W.controller c).isOwner a = true)
    (hn : n ∈ held) :
    ∃ c, (W.wrapper w).attachment = some (c, rootAddr v) ∧ c ≠ n ∧ v ∈ W.values ∧
      Detached W W' w c n v := by
  unfold copyOrDetachValue at h
  rw [if_pos hmode] at h
  obtain ⟨r, hr, h⟩ := bind_eq_ok_iff.mp h
  split at h
  · simp at h
  · rename_i c a _
    obtain ⟨hattached, hheld, -, -⟩ := verify_eq_some hr
    have hcn : c ≠ n := fun heq => hheld (heq ▸ hn)
    split at h
    · simp at h
    · rename_i u hu
      obtain ⟨W₁, hremove, h⟩ := bind_eq_ok_iff.mp h
      obtain ⟨rfl, rfl⟩ := Prod.mk.inj (ok.inj h)
      have hroot : rootAddr u = a := by simpa using find?_some hu
      subst hroot
      refine ⟨c, hattached, hcn, mem_of_find?_eq_some hu, ?_⟩
      -- the other controller has no references any more, so that none is detached
      have hremove : ((W.setController n ((W.controller n).takeFrom (W.controller c)).1).setController
          c { W.controller c with referenceMap := [] }).remove c (rootAddr u) false = .ok W₁ := hremove
      have hself : ((W.setController n ((W.controller n).takeFrom (W.controller c)).1).setController
          c { W.controller c with referenceMap := [] }).controller c =
          { W.controller c with referenceMap := [] } := update_self _ _ _
      obtain rfl := remove_isOwner (by rw [hself]; exact howner c _ hattached) hremove
      refine ⟨rfl, rfl, rfl, rfl, ?_, ?_, fun c' hc' hc => ?_, fun w' => ?_⟩
      · simp [setWrapper, setController, Ne.symm hcn]
      · simp [setWrapper, setController]
      · simp [setWrapper, setController, hc, hc']
      · simp [setWrapper, setController, CefValueController.takeFrom, update_apply]

def Origin (W : World) (v : Value) : Prop := (∃ kind, v = leaf W.next kind) ∨
  ∃ x u, findIn slot x forest 0 W.values = some u ∧
    (v = (clone W.next u).1 ∨ v = removeEmptyValueDicts (clone W.next u).1)

lemma copyOrDetachValue_copy {n : Nat}
    (h : W.copyOrDetachValue held w n = .ok (v, W')) (hmode : (W.wrapper w).mode ≠ .ownerWillDelete) :
    ∃ next, W' = { W with next := next } ∧ W.next ≤ next ∧
      (∀ b, (blocks v).count b ≤ fresh W.next next b) ∧
      (formedIn W.values = true → formed v = true) ∧ W.Origin v := by
  unfold copyOrDetachValue at h
  rw [if_neg hmode] at h
  obtain ⟨r, hr, h⟩ := bind_eq_ok_iff.mp h
  split at h
  · obtain ⟨rfl, rfl⟩ := Prod.mk.inj (ok.inj h)
    exact ⟨_, rfl, le_succ _, fun b => count_blocks_leaf b W.next .null, fun _ => rfl,
      .inl ⟨_, rfl⟩⟩
  · obtain ⟨u, hderef, h⟩ := bind_eq_ok_iff.mp h
    obtain ⟨rfl, rfl⟩ := Prod.mk.inj (ok.inj h)
    have hfind := (deref_eq_ok hderef).1
    refine ⟨_, rfl, (count_clone 0 u W.next).1, fun b => (count_clone b u W.next).2, fun hformed => ?_,
      .inr ⟨_, u, hfind, .inl rfl⟩⟩
    exact formed_clone u W.next (formed_findIn forest 0 W.values hformed hfind)

/-- `~CefValueBase` of a reference. -/
structure Released (W W' : World) (w c : Nat) (a : Addr) : Prop where
  values : W'.values = W.values
  next : W'.next = W.next
  controllers : W'.controllers = W.controllers
  wrappers : W'.wrappers = W.wrappers
  others : ∀ c', c' ≠ c → W'.controller c' = W.controller c'
  owner : (W'.controller c).owner = (W.controller c).owner
  references : (W'.controller c).referenceMap =
    (W.controller c).referenceMap.filter fun e => e.1 ≠ a
  dependencies : ∀ p x, (p, x) ∈ (W.controller c).dependencyMap → x ≠ a →
    (p, x) ∈ (W'.controller c).dependencyMap
  left : (W'.controller c).dependencyMap =
    (W.controller c).dependencyMap.filter fun e => e.2 ≠ a
  wrapper : ∀ w', W'.wrapper w' =
    if w' = w then { (W.wrapper w).detach with alive := false } else W.wrapper w'

/-- `~CefValueBase` of an owner. -/
structure Deleted (W W' : World) (w c : Nat) (a : Addr) : Prop where
  values : W'.values = W.values.filter fun u => rootAddr u ≠ a
  next : W'.next = W.next
  controllers : W'.controllers = W.controllers
  wrappers : W'.wrappers = W.wrappers
  left : W'.controller c = CefValueController.new
  others : ∀ c', c' ≠ c → W'.controller c' = W.controller c'
  wrapper : ∀ w', w' ≠ w → W'.wrapper w' =
    if w' ∈ (W.controller c).referenceMap.map (·.2) then (W.wrapper w').detach else W.wrapper w'
  deleted : (W'.wrapper w).attachment = none ∧ (W'.wrapper w).alive = false ∧
    (W'.wrapper w).mode = (W.wrapper w).mode

lemma released_of_remove (ha : (W.controller c).isOwner a = false)
    (hmode : (W.wrapper w).mode = .reference) (hremove : W.remove c a false = .ok W₁)
    (hdelete : W₁.deleteValue c a (W₁.wrapper w).mode = .ok W₂) :
    Released W (W₂.setWrapper w { (W₂.wrapper w).detach with alive := false }) w c a := by
  have hcontroller : (W.controller c).remove a false = ({ W.controller c with
      referenceMap := (W.controller c).referenceMap.filter fun e => e.1 ≠ a
      dependencyMap := (W.controller c).dependencyMap.filter fun e => e.2 ≠ a }, []) := by
    simp [CefValueController.remove, ha]
  unfold remove at hremove
  rw [hcontroller] at hremove
  obtain ⟨-, rfl⟩ := notify_eq_ok hremove
  obtain rfl : _ = W₂ := by
    simpa [deleteValue, setController, hmode] using hdelete
  refine ⟨rfl, rfl, rfl, rfl, fun c' hc' => ?_, ?_, ?_, fun p x hx hne => ?_, ?_, fun w' => ?_⟩
  · simp [setWrapper, hc']
  · simp [setWrapper]
  · simp [setWrapper]
  · simp [setWrapper, hx, hne]
  · simp [setWrapper]
  · simp [setWrapper, update_apply]

lemma deleted_of_remove (ha : (W.controller c).isOwner a = true)
    (hmode : (W.wrapper w).mode = .ownerWillDelete) (hremove : W.remove c a false = .ok W₁)
    (hdelete : W₁.deleteValue c a (W₁.wrapper w).mode = .ok W₂) :
    Deleted W (W₂.setWrapper w { (W₂.wrapper w).detach with alive := false }) w c a := by
  obtain rfl := remove_isOwner ha hremove
  unfold deleteValue at hdelete
  rw [if_pos (by dsimp only; split <;> exact hmode)] at hdelete
  obtain ⟨W₃, hdependencies, h⟩ := bind_eq_ok_iff.mp hdelete
  obtain rfl := ok.inj h
  -- the controller has been reset, and no dependencies are left
  unfold removeDependencies at hdependencies
  simp only [setController, update_self] at hdependencies
  obtain ⟨-, rfl⟩ := notify_eq_ok hdependencies
  refine ⟨rfl, rfl, rfl, rfl, ?_, fun c' hc' => ?_, fun w' hw' => ?_, ?_, ?_, ?_⟩
  · simp [setWrapper]
    rfl
  · simp [setWrapper, hc']
  · simp [setWrapper, hw', CefValueController.removeDependencies, CefValueController.new]
  · simp [setWrapper, Wrapper.detach]
  · simp [setWrapper]
  · simp only [setWrapper, update_self, CefValueController.removeDependencies,
      CefValueController.new, filter_nil, map_nil, not_mem_nil, if_false]
    split <;> rfl

lemma destroy_cases (h : W.destroy held w = .ok W')
    (hmode : ∀ o, (W.wrapper w).attachment = some o → (W.wrapper w).mode ≠ .ownerNoDelete)
    (howner : ∀ c a, (W.wrapper w).attachment = some (c, a) →
      ((W.controller c).isOwner a = true ↔ (W.wrapper w).mode = .ownerWillDelete)) :
    (W.wrapper w).attachment = none ∧ W' = W.setWrapper w { W.wrapper w with alive := false } ∨
    ∃ c a, (W.wrapper w).attachment = some (c, a) ∧ c ∉ held ∧
      ((W.wrapper w).mode = .reference ∧ Released W W' w c a ∨
        (W.wrapper w).mode = .ownerWillDelete ∧ Deleted W W' w c a) := by
  obtain ⟨r, hr, h⟩ := bind_eq_ok_iff.mp h
  split at h
  · cases h
    exact .inl ⟨verify_eq_none hr, rfl⟩
  · rename_i c a _
    obtain ⟨hattached, hheld, -, -⟩ := verify_eq_some hr
    obtain ⟨W₁, hremove, h⟩ := bind_eq_ok_iff.mp h
    obtain ⟨W₂, hdelete, h⟩ := bind_eq_ok_iff.mp h
    cases h
    refine .inr ⟨c, a, hattached, hheld, ?_⟩
    cases hw : (W.wrapper w).mode with
    | ownerNoDelete => exact (hmode _ hattached hw).elim
    | reference =>
      have hnot : (W.controller c).isOwner a = false := by
        rw [← Bool.not_eq_true, howner c a hattached, hw]
        simp
      exact .inl ⟨rfl, released_of_remove hnot hw hremove hdelete⟩
    | ownerWillDelete =>
      exact .inr ⟨rfl, deleted_of_remove ((howner c a hattached).mpr hw) hw hremove hdelete⟩

lemma swapValue_cases {o arg cell : Nat} {parent : Addr} {last : Bool}
    (h : W.swapValue held o arg c b parent cell last = .ok W') :
    ∃ type readOnly object,
      W' = { (W.getOrCreateRef c type b parent readOnly cell).2 with object := object } ∨
      { (W.getOrCreateRef c type b parent readOnly cell).2 with object := object }.destroy held arg =
        .ok W' := by
  unfold swapValue at h
  split at h
  · exact ⟨_, _, _, .inr h⟩
  · exact ⟨_, _, _, .inl (ok.inj h).symm⟩

/-! ### What a call can do -/

/-- The wrapper and the position that a `Set` is about. -/
def Op.target : Op → Option (Nat × Position)
  | .setScalar w pos _ | .setObject w pos _ | .setValue w pos _ _ => some (w, pos)
  | _ => none

/-- The wrapper whose value a `Set` takes or copies. -/
def Op.argument (W : World) : Op → Option Nat
  | .setObject _ _ arg => some arg
  | .setValue _ _ o _ =>
    match W.object o with
    | .object arg => some arg
    | _ => none
  | _ => none

inductive Effect (W : World) : Op → World → Prop where
  /-- It changes nothing but a `CefValueImpl`. -/
  | objects (op : Op) (object : Nat → CefValueImpl) (objects : Nat) :
    Effect W op { W with object := object, objects := objects }
  /-- It makes a value, and an owner for it. -/
  | owner (op : Op) {v : Value} {next : Nat} (type : ValueType) (hle : W.next ≤ next)
      (hcount : ∀ b, (blocks v).count b ≤ fresh W.next next b)
      (hformed : formedIn W.values = true → formed v = true) (horigin : W.Origin v) :
    Effect W op (W.newOwner type v next)
  /-- It makes a wrapper for a child, or finds it. -/
  | reference (op : Op) {w c i : Nat} {a : Addr} {v t : Value}
      (hw : (W.wrapper w).attachment = some (c, a))
      (hv : findIn slot a forest 0 W.values = some v) (ht : v.children[i]? = some t)
      (type : ValueType) (readOnly : Bool) (object : Nat → CefValueImpl) (objects : Nat) :
    Effect W op { (W.getOrCreateRef c type (slot v.label i t.label) a readOnly t.label.cell).2 with
      object := object
      objects := objects }
  /-- It puts a simple value into a container. -/
  | assign {op : Op} {w c : Nat} {a : Addr} {pos : Position} {r : Addr × Nat} {W' : World}
      (s : Scalar) (hop : op.target = some (w, pos))
      (hw : (W.wrapper w).attachment = some (c, a))
      (hset : { W with next := W.next + 1 }.setInternal c a pos (leaf W.next (.scalar s)) =
        .ok (r, W')) :
    Effect W op W'
  /-- It puts the value of another wrapper into a container. -/
  | transfer {op : Op} {w arg c : Nat} {a : Addr} {pos : Position} {content : Value} {r : Addr × Nat}
      {W₁ W₂ W' : World} (hop : op.target = some (w, pos)) (harg : op.argument W = some arg)
      (hw : (W.wrapper w).attachment = some (c, a))
      (hcopy : W.copyOrDetachValue [c] arg c = .ok (content, W₁))
      (hset : W₁.setInternal c a pos content = .ok (r, W₂))
      (hswap : W' = W₂ ∨ ∃ o last, W₂.swapValue [c] o arg c r.1 a r.2 last = .ok W') :
    Effect W op W'
  /-- It removes something from a container. -/
  | remove {w c : Nat} {a : Addr} {pos : Position} {removed : Bool} {W' : World}
      (hw : (W.wrapper w).attachment = some (c, a))
      (hremove : W.removeInternal c a pos = .ok (removed, W')) :
    Effect W (.removeAt w pos) W'
  /-- It removes everything from a container. -/
  | clear {w c : Nat} {a : Addr} {v : Value} {W₁ : World}
      (hw : (W.wrapper w).attachment = some (c, a))
      (hremove : W.removeDependencies c a = .ok W₁)
      (hv : findIn slot a forest 0 W₁.values = some v) :
    Effect W (.clear w) (W₁.replace a (cleared v) W₁.next)
  /-- It makes a list shorter. -/
  | shrink {w c size : Nat} {a : Addr} {v : Value} {W' : World}
      (hw : (W.wrapper w).attachment = some (c, a))
      (hv : findIn slot a forest 0 W.values = some v) (htype : v.label.kind.type = some .list)
      (hshrink : shrink c a size (v.children.length - size) W = .ok W') :
    Effect W (.setSize w size) W'
  /-- It makes a list longer. -/
  | grow {w c size : Nat} {a : Addr} {v : Value}
      (hw : (W.wrapper w).attachment = some (c, a))
      (hv : findIn slot a forest 0 W.values = some v) (htype : v.label.kind.type = some .list)
      (hsize : v.children.length ≤ size) :
    Effect W (.setSize w size) (W.replace a (padTo size W.next v).1 (padTo size W.next v).2)
  /-- It destroys a wrapper. -/
  | destroy {w : Nat} {W' : World} (hdestroy : W.destroy [] w = .ok W') : Effect W (.destroy w) W'

section Effect

variable {w : Nat} {pos : Position}

lemma getRef_effect {type : ValueType} {r : Option Nat} (op : Op)
    (h : W.getRef w pos type = .ok (r, W')) : Effect W op W' := by
  rcases method_eq_ok h with heq | ⟨c, a, hw, h⟩
  · obtain ⟨-, rfl⟩ := Prod.mk.inj heq
    exact .objects op W'.object W'.objects
  · obtain ⟨v, hderef, h⟩ := bind_eq_ok_iff.mp h
    split at h
    · cases h
      exact .objects op W.object W.objects
    · rename_i i b t hchild
      obtain ⟨ht, rfl, -⟩ := childAt_eq_some hchild
      split at h
      · obtain ⟨-, rfl⟩ := Prod.mk.inj (ok.inj h)
        exact .reference op hw (deref_eq_ok hderef).1 ht type _ _ _
      · obtain ⟨-, rfl⟩ := Prod.mk.inj (ok.inj h)
        exact .objects op W.object W.objects

lemma getValue_effect {r : Option Nat} (op : Op) (h : W.getValue w pos = .ok (r, W')) :
    Effect W op W' := by
  rcases method_eq_ok h with heq | ⟨c, a, hw, h⟩
  · obtain ⟨-, rfl⟩ := Prod.mk.inj heq
    exact .objects op W'.object W'.objects
  · obtain ⟨v, hderef, h⟩ := bind_eq_ok_iff.mp h
    split at h
    · obtain ⟨-, rfl⟩ := Prod.mk.inj (ok.inj h)
      exact .objects op W.object W.objects
    · rename_i i b t hchild
      obtain ⟨ht, rfl, -⟩ := childAt_eq_some hchild
      split at h
      · obtain ⟨-, rfl⟩ := Prod.mk.inj (ok.inj h)
        exact .reference op hw (deref_eq_ok hderef).1 ht _ _ _ _
      · cases h
        exact .objects op _ _
      · simp at h

variable {r : Bool}

lemma setScalar_effect {s : Scalar} (h : W.setScalar w pos s = .ok (r, W')) :
    Effect W (.setScalar w pos s) W' := by
  rcases method_eq_ok h with heq | ⟨c, a, hw, h⟩
  · obtain ⟨-, rfl⟩ := Prod.mk.inj heq
    exact .objects _ W'.object W'.objects
  · obtain ⟨⟨r', W₁⟩, hset, h⟩ := bind_eq_ok_iff.mp h
    obtain ⟨-, rfl⟩ := Prod.mk.inj (ok.inj h)
    exact .assign s rfl hw hset

lemma setObject_effect {arg : Nat} (h : W.setObject w pos arg = .ok (r, W')) :
    Effect W (.setObject w pos arg) W' := by
  rcases method_eq_ok h with heq | ⟨c, a, hw, h⟩
  · obtain ⟨-, rfl⟩ := Prod.mk.inj heq
    exact .objects _ W'.object W'.objects
  · obtain ⟨⟨content, W₁⟩, hcopy, h⟩ := bind_eq_ok_iff.mp h
    obtain ⟨⟨r', W₂⟩, hset, h⟩ := bind_eq_ok_iff.mp h
    obtain ⟨-, rfl⟩ := Prod.mk.inj (ok.inj h)
    exact .transfer rfl rfl hw hcopy hset (.inl rfl)

lemma setValue_effect {o : Nat} {last : Bool} (h : W.setValue w pos o last = .ok (r, W')) :
    Effect W (.setValue w pos o last) W' := by
  rcases method_eq_ok h with heq | ⟨c, a, hw, h⟩
  · obtain ⟨-, rfl⟩ := Prod.mk.inj heq
    exact .objects _ W'.object W'.objects
  · split at h
    · simp at h
    · obtain ⟨⟨r', W₁⟩, hset, h⟩ := bind_eq_ok_iff.mp h
      obtain ⟨-, rfl⟩ := Prod.mk.inj (ok.inj h)
      exact .assign _ rfl hw hset
    · rename_i arg harg
      obtain ⟨⟨content, W₁⟩, hcopy, h⟩ := bind_eq_ok_iff.mp h
      obtain ⟨⟨r', W₂⟩, hset, h⟩ := bind_eq_ok_iff.mp h
      obtain ⟨W₃, hswap, h⟩ := bind_eq_ok_iff.mp h
      obtain ⟨-, rfl⟩ := Prod.mk.inj (ok.inj h)
      exact .transfer rfl (by simp [Op.argument, harg]) hw hcopy hset (.inr ⟨o, last, hswap⟩)

lemma setSize_effect {size : Nat} (h : W.setSize w size = .ok (r, W')) :
    Effect W (.setSize w size) W' := by
  rcases method_eq_ok h with heq | ⟨c, a, hw, h⟩
  · obtain ⟨-, rfl⟩ := Prod.mk.inj heq
    exact .objects _ W'.object W'.objects
  · obtain ⟨v, hderef, h⟩ := bind_eq_ok_iff.mp h
    obtain ⟨hv, htype⟩ := deref_eq_ok hderef
    split at h
    · split at h
      · simp at h
      · obtain ⟨W₁, hshrink, h⟩ := bind_eq_ok_iff.mp h
        obtain ⟨-, rfl⟩ := Prod.mk.inj (ok.inj h)
        exact .shrink hw hv htype hshrink
    · rename_i hsize
      obtain ⟨-, rfl⟩ := Prod.mk.inj (ok.inj h)
      exact .grow hw hv htype (not_lt.mp hsize)

lemma copy_effect {excludeEmptyChildren : Bool} {r : Option Nat} (op : Op)
    (h : W.copy w excludeEmptyChildren = .ok (r, W')) : Effect W op W' := by
  rcases method_eq_ok h with heq | ⟨c, a, hw, h⟩
  · obtain ⟨-, rfl⟩ := Prod.mk.inj heq
    exact .objects _ W'.object W'.objects
  · obtain ⟨v, hderef, h⟩ := bind_eq_ok_iff.mp h
    obtain ⟨-, rfl⟩ := Prod.mk.inj (ok.inj h)
    refine .owner op _ (count_clone 0 v W.next).1 (fun b => ?_) (fun hformed => ?_)
      (.inr ⟨a, v, (deref_eq_ok hderef).1, ?_⟩)
    · have hclone := (count_clone b v W.next).2
      have hempty := (count_removeEmptyValueDicts b (clone W.next v).1).2
      split <;> omega
    · have hclone := formed_clone v W.next
        (formed_findIn forest 0 W.values hformed (deref_eq_ok hderef).1)
      split
      · exact formed_removeEmptyValueDicts _ hclone
      · exact hclone
    · split
      · exact .inr rfl
      · exact .inl rfl

lemma create_effect (op : Op) (type : ValueType) (data : List UInt8) :
    Effect W op (W.create type data) := by
  have hleaf : ∀ kind b, (blocks (leaf W.next kind)).count b =
      (leaf W.next kind).label.buffers.count b + fresh W.next (W.next + 1) b := by
    intro kind b
    rw [count_blocks, count_innerBlocks]
    rfl
  cases type with
  | binary =>
    refine .owner op .binary (le_succ _) (fun b => ?_) (fun _ => rfl) (.inl ⟨_, rfl⟩)
    rw [hleaf]
    exact le_of_eq (zero_add _)
  | dictionary =>
    refine .owner op .dictionary (le_succ _) (fun b => ?_) (fun _ => rfl) (.inl ⟨_, rfl⟩)
    rw [hleaf]
    exact le_of_eq (zero_add _)
  | list =>
    refine .owner op .list (le_add_right _ _) (fun b => ?_) (fun _ => rfl) (.inl ⟨_, rfl⟩)
    have hbuffer : (leaf W.next (.list (W.next + 1) 0)).label.buffers.count b =
        fresh (W.next + 1) (W.next + 2) b := count_singleton _ _
    have hsum := fresh_add (n := W.next) (m := W.next + 1) (k := W.next + 2) (b := b) (by omega)
      (by omega)
    rw [hleaf, hbuffer]
    omega

theorem step_effect {op : Op} (h : W.step op = .ok W') : Effect W op W' := by
  unfold step at h
  split at h
  · split at h
    · obtain rfl := ok.inj h
      exact create_effect _ _ _
    · obtain ⟨r, hr, rfl⟩ := map_eq_ok_iff.mp h
      exact getRef_effect _ hr
    · obtain ⟨r, hr, rfl⟩ := map_eq_ok_iff.mp h
      exact getValue_effect _ hr
    · obtain ⟨r, hr, rfl⟩ := map_eq_ok_iff.mp h
      exact setScalar_effect hr
    · obtain ⟨r, hr, rfl⟩ := map_eq_ok_iff.mp h
      exact setObject_effect hr
    · obtain ⟨r, hr, rfl⟩ := map_eq_ok_iff.mp h
      exact setValue_effect hr
    · obtain ⟨⟨r, W₁⟩, hr, rfl⟩ := map_eq_ok_iff.mp h
      rcases method_eq_ok hr with heq | ⟨c, a, hw, hr⟩
      · obtain ⟨-, rfl⟩ := Prod.mk.inj heq
        exact .objects _ _ _
      · exact .remove hw hr
    · obtain ⟨⟨r, W₁⟩, hr, rfl⟩ := map_eq_ok_iff.mp h
      rcases method_eq_ok hr with heq | ⟨c, a, hw, hr⟩
      · obtain ⟨-, rfl⟩ := Prod.mk.inj heq
        exact .objects _ _ _
      · obtain ⟨W₂, hremove, hr⟩ := bind_eq_ok_iff.mp hr
        obtain ⟨v, hderef, hr⟩ := bind_eq_ok_iff.mp hr
        obtain ⟨-, rfl⟩ := Prod.mk.inj (ok.inj hr)
        exact .clear hw hremove (deref_eq_ok hderef).1
    · obtain ⟨r, hr, rfl⟩ := map_eq_ok_iff.mp h
      exact setSize_effect hr
    · obtain ⟨r, hr, rfl⟩ := map_eq_ok_iff.mp h
      exact copy_effect _ hr
    · exact .destroy h
    · obtain rfl := ok.inj h
      exact .objects _ _ _
    · obtain rfl := ok.inj h
      exact .objects _ _ _
  · simp at h

end Effect

end CefCore.Values.World
