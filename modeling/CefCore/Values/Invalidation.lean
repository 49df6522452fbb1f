import CefCore.Values.Moves
import CefCore.Values.Registry

/-!
# The invalidation of wrappers

When a value is removed from a container, the wrappers for everything in it are detached. The
controller finds them along its dependency map, where each wrapper has entered the pair of its
parent's address and its own. A wrapper that is destroyed takes its pair out again, and the way to
the wrappers below is broken; and the pairs do not follow the elements of a list that move.

## Main results

* `gone_of_linked`: the references of what is removed are gone.
-/

namespace CefCore.Values.World

open PlacedTree List Option Function

variable {W W' W₁ : World} {c : Nat} {a b : Addr} {temps temps' : List Value}

/-- Every attached reference is to a value that is in the tree of the owner of its controller, and
it is the value that the reference was made for. -/
def ReferencesContained (W : World) : Prop := ∀ w c x, (W.wrapper w).mode = .reference →
  (W.wrapper w).attachment = some (c, x) → ∃ t w' v, t ∈ W.values ∧
    (W.controller c).owner = some (rootAddr t, w') ∧ t.find slot x (rootAddr t) = some v ∧
    v.label.cell = (W.wrapper w).element

def Registered (W : World) (c : Nat) (x : Addr) : Prop :=
  x ∈ (W.controller c).referenceMap.map (·.1)

instance (W : World) (c : Nat) (x : Addr) : Decidable (W.Registered c x) :=
  inferInstanceAs (Decidable (_ ∈ _))

/-- Whatever is below the value `t` at the address `b` and has a wrapper is a child of `t`, or its
parent has a wrapper too. -/
def Linked (W : World) (c : Nat) (b : Addr) (t : Value) : Prop :=
  ∀ e ∈ entriesIn slot (some b) t.label 0 t.children, W.Registered c e.addr →
    e.parent = some b ∨ ∃ p ∈ e.parent, W.Registered c p

instance (W : World) (c : Nat) (b : Addr) (t : Value) : Decidable (W.Linked c b t) :=
  inferInstanceAs (Decidable (∀ e ∈ entriesIn slot (some b) t.label 0 t.children, _ → _ ∨ _))

/-- The value `t` at the address `b` in the container at `a` has no wrapper, and neither do its
children. -/
def Still (W : World) (c : Nat) (a b : Addr) (t : Value) : Prop :=
  ∀ e ∈ t.entries slot (some a) b, W.Registered c e.addr → e.addr ≠ b ∧ e.parent ≠ some b

instance (W : World) (c : Nat) (a b : Addr) (t : Value) : Decidable (W.Still c a b t) :=
  inferInstanceAs (Decidable (∀ e ∈ t.entries slot (some a) b, _ → _ ∧ _))

/-- Where a registered value is: in the tree of the controller's owner, under the parent that the
dependency map has for it. -/
def Anchor (W : World) (c : Nat) (x : Addr) (element : Nat) : Prop :=
  ∃ t w e p, t ∈ W.values ∧ (W.controller c).owner = some (rootAddr t, w) ∧
    e ∈ t.entries slot none (rootAddr t) ∧ e.addr = x ∧ e.label.cell = element ∧
    e.parent = some p ∧ (p, x) ∈ (W.controller c).dependencyMap

/-- The invariant: every registered value is where its entries say, and only containers have
children. -/
structure Anchored (W : World) (temps : List Value) : Prop where
  anchor : ∀ c x w, (x, w) ∈ (W.controller c).referenceMap → W.Anchor c x (W.wrapper w).element
  shape : formedIn W.values = true
  shape_temps : formedIn temps = true

/-! ### Addresses of a tree -/

section Tree

variable {t u v : Value} {x : Addr}

lemma Ownership.nodup_addrs (h : W.Ownership temps) (ht : t ∈ W.values) :
    ((t.entries slot none (rootAddr t)).map (·.addr)).Nodup := by
  refine CefCore.Values.nodup_addrs none (rootAddr t) t (fun b => ?_)
    (h.cell_notMem_innerBlocks (.inl ht) ht)
  have h₁ := h.count_values_le_one b
  have h₂ := count_blocks_le (b := b) ht
  have h₃ := count_blocks b t
  omega

variable {e : Entry Label Addr}

lemma Ownership.entry_eq (h : W.Ownership temps) (ht : t ∈ W.values) {e' : Entry Label Addr}
    (he : e ∈ t.entries slot none (rootAddr t)) (he' : e' ∈ t.entries slot none (rootAddr t))
    (heq : e.addr = e'.addr) : e = e' :=
  inj_on_of_nodup_map (h.nodup_addrs ht) he he' heq

lemma block_of_entry (he : e ∈ t.entries slot none (rootAddr t)) : e.addr.block ∈ blocks t := by
  rcases addr_block none (rootAddr t) t e he with rfl | hblock
  · exact cell_mem_blocks t
  · exact mem_blocks_of_mem_innerBlocks hblock

lemma block_of_parent {p : Addr} (he : e ∈ t.entries slot none (rootAddr t))
    (hp : e.parent = some p) : p.block ∈ blocks t := by
  rcases parent_mem slot none (rootAddr t) t e he with hnone | ⟨e', he', hp'⟩
  · rw [hp] at hnone
    cases hnone
  · rw [hp, some.injEq] at hp'
    rw [hp']
    exact block_of_entry he'

lemma entries_of_find (hfind : t.find slot x (rootAddr t) = some v) :
    ∃ q, ∀ e ∈ v.entries slot q x, e ∈ t.entries slot none (rootAddr t) := by
  obtain ⟨q, ctx, hperm, -⟩ := exists_context slot none (rootAddr t) t v hfind
  exact ⟨q, fun e he => hperm.mem_iff.mpr (mem_append_left _ he)⟩

lemma entriesIn_of_find (hfind : t.find slot x (rootAddr t) = some v) :
    ∀ e ∈ entriesIn slot (some x) v.label 0 v.children, e ∈ t.entries slot none (rootAddr t) := by
  obtain ⟨q, hsub⟩ := entries_of_find hfind
  intro e he
  refine hsub e ?_
  rw [entries_eq]
  exact mem_cons_of_mem _ he

lemma Ownership.eq_of_rootAddr (h : W.Ownership temps) (ht : t ∈ W.values) (hu : u ∈ W.values)
    (heq : rootAddr t = rootAddr u) : t = u := by
  have hcell : t.label.cell = u.label.cell := congrArg Addr.block heq
  exact eq_of_count_le_one (h.count_values_le_one _) ht hu (cell_mem_blocks t)
    (hcell ▸ cell_mem_blocks u)

lemma Ownership.findIn_eq (h : W.Ownership temps) (ht : t ∈ W.values)
    (hfind : t.find slot x (rootAddr t) = some v) : findIn slot x forest 0 W.values = some v := by
  cases hfindIn : findIn slot x forest 0 W.values with
  | none => exact (findIn_ne_none ht hfind hfindIn).elim
  | some v' =>
    obtain ⟨l₁, u, l₂, hvalues, hu, -⟩ := forest_split hfindIn
    have hmem : u ∈ W.values := by rw [hvalues]; simp
    obtain rfl := eq_of_count_le_one (h.count_values_le_one _) ht hmem (block_of_find hfind)
      (block_of_find hu)
    exact hu.symm.trans hfind

lemma Hosted.tree (hhosted : W.Hosted c a) (h : W.Ownership temps)
    (hfind : findIn slot a forest 0 W.values = some v) : ∃ u w, u ∈ W.values ∧
      (W.controller c).owner = some (rootAddr u, w) ∧ u.find slot a (rootAddr u) = some v := by
  obtain ⟨t, w, ht, hblock, howner⟩ := hhosted
  obtain ⟨l₁, u, l₂, hvalues, hu, -⟩ := forest_split hfind
  have hmem : u ∈ W.values := by rw [hvalues]; simp
  obtain rfl := eq_of_count_le_one (h.count_values_le_one _) ht hmem hblock (block_of_find hu)
  exact ⟨t, w, ht, howner, hu⟩

end Tree

/-! ### What is removed -/

variable {e : Entry Label Addr} {gone : Addr → Bool} {v' : Value}

lemma Anchored.dependency (hA : W.Anchored temps) (h : W.Ownership temps) {u : Value} {w : Nat}
    (hu : u ∈ W.values) (howner : (W.controller c).owner = some (rootAddr u, w))
    {p : Addr} (he : e ∈ u.entries slot none (rootAddr u))
    (hp : e.parent = some p) (hregistered : W.Registered c e.addr) :
    (p, e.addr) ∈ (W.controller c).dependencyMap := by
  obtain ⟨⟨x, w'⟩, hentry, hx⟩ := mem_map.mp hregistered
  have hx : x = e.addr := hx
  subst hx
  obtain ⟨t, w'', e', p', ht, howner', he', haddr, -, hp', hdependency⟩ := hA.anchor c _ w' hentry
  rw [howner, some.injEq, Prod.mk.injEq] at howner'
  obtain rfl := h.eq_of_rootAddr hu ht howner'.1
  obtain rfl := h.entry_eq hu he he' haddr.symm
  rw [hp, some.injEq] at hp'
  rw [hp']
  exact hdependency

/-- **What is removed takes all wrappers along**: if no wrapper is missing between the value `s` at
`b` and the wrappers below it, then these depend on `b`.

**Proof sketch.** Everything below `b` is reached along the edges of the tree, and the edges to
registered values are in the dependency map. Going back one comes to `b` or to a registered value
again. -/
theorem gone_of_linked (hA : W.Anchored temps) (h : W.Ownership temps) {u s : Value} {w : Nat}
    {q : Option Addr} (hu : u ∈ W.values) (howner : (W.controller c).owner = some (rootAddr u, w))
    (hsub : ∀ e ∈ s.entries slot q b, e ∈ u.entries slot none (rootAddr u))
    (hnodup : ((s.entries slot q b).map (·.addr)).Nodup) (hlinked : W.Linked c b s)
    (hgone : ∀ x, Relation.TransGen
      (fun p x => (p, x) ∈ (W.controller c).dependencyMap ∧ x ≠ b) b x → gone x = true) :
    ∀ e ∈ entriesIn slot (some b) s.label 0 s.children, W.Registered c e.addr →
      gone e.addr = true := by
  rw [entries_eq] at hsub hnodup
  rw [map_cons, nodup_cons] at hnodup
  have hedge : ∀ p y, Edge (entriesIn slot (some b) s.label 0 s.children) p y →
      W.Registered c y → (p, y) ∈ (W.controller c).dependencyMap ∧ y ≠ b := by
    rintro p y ⟨e, he, hp, rfl⟩ hregistered
    refine ⟨hA.dependency h hu howner (hsub e (mem_cons_of_mem _ he)) hp hregistered, ?_⟩
    intro heq
    exact hnodup.1 (mem_map.mpr ⟨e, he, heq⟩)
  have hreach : ∀ y, Relation.TransGen (Edge (entriesIn slot (some b) s.label 0 s.children)) b y →
      W.Registered c y → Relation.TransGen
        (fun p x => (p, x) ∈ (W.controller c).dependencyMap ∧ x ≠ b) b y := by
    intro y hy
    induction hy with
    | single hby => exact fun hregistered => Relation.TransGen.single (hedge b _ hby hregistered)
    | @tail p y _ hpy ih =>
      intro hregistered
      have hdependency := hedge p y hpy hregistered
      obtain ⟨e, he, hp, rfl⟩ := hpy
      rcases hlinked e he hregistered with hparent | ⟨p', hp', hregistered'⟩
      · rw [hp, some.injEq] at hparent
        rw [hparent] at hdependency
        exact Relation.TransGen.single hdependency
      · rw [hp, mem_some_iff] at hp'
        subst hp'
        exact Relation.TransGen.tail (ih hregistered') hdependency
  intro e he hregistered
  exact hgone e.addr (hreach e.addr (transGen_edgeIn slot b s.label 0 s.children _
    (fun _ _ => id) e he) hregistered)

/-! ### What stays -/

lemma mem_entries_of_deep {t : Value} {q : Option Addr} {x y : Addr}
    (he : e ∈ t.entries slot q x) (haddr : e.addr ≠ x) (hparent : e.parent ≠ some x) :
    e ∈ t.entries slot q y := by
  rw [entries_eq] at he ⊢
  rcases mem_cons.mp he with rfl | he
  · exact (haddr rfl).elim
  · obtain ⟨k, s, hs, he⟩ := (mem_entriesIn slot (some x) t.label).mp he
    refine mem_cons_of_mem _ ((mem_entriesIn slot (some y) t.label).mpr ⟨k, s, hs, ?_⟩)
    rw [entries_eq] at he ⊢
    rcases mem_cons.mp he with rfl | he
    · exact (hparent rfl).elim
    · exact mem_cons_of_mem _ he

/-- What a change of the container `v` at `a` to `v'` may do to each child: it stays; it moves, and
is still; or its wrappers are dropped. -/
def KeepsReferences (W : World) (c : Nat) (a : Addr) (v v' : Value) (gone : Addr → Bool) : Prop :=
  ∀ j t, v.children[j]? = some t → Stays v v' j ∨
    (Remains v v' j ∧ W.Still c a (slot v.label j t.label) t) ∨
    ∀ e ∈ t.entries slot (some a) (slot v.label j t.label), W.Registered c e.addr →
      gone e.addr = true

lemma KeepsReferences.mem_entriesIn {v : Value} (hkeeps : W.KeepsReferences c a v v' gone)
    (he : e ∈ entriesIn slot (some a) v.label 0 v.children) (hregistered : W.Registered c e.addr) :
    gone e.addr = true ∨ e ∈ entriesIn slot (some a) v'.label 0 v'.children := by
  obtain ⟨j, t, ht, he⟩ := (PlacedTree.mem_entriesIn slot (some a) v.label).mp he
  rw [Nat.zero_add] at he
  rcases hkeeps j t ht with hstays | ⟨hremains, hstill⟩ | hgone
  · obtain ⟨j', ht', hslot⟩ := hstays t ht
    refine .inr ((PlacedTree.mem_entriesIn slot (some a) v'.label).mpr ⟨j', t, ht', ?_⟩)
    rw [Nat.zero_add, hslot]
    exact he
  · obtain ⟨j', ht'⟩ := hremains t ht
    obtain ⟨haddr, hparent⟩ := hstill e he hregistered
    exact .inr ((PlacedTree.mem_entriesIn slot (some a) v'.label).mpr
      ⟨j', t, ht', mem_entries_of_deep he haddr hparent⟩)
  · exact .inl (hgone e he hregistered)

/-- The container at `a` has become `v'`, after the references of the controller `c` in `gone` have
been dropped. Dependencies may be lost that have to do with the values in the hands of the method. -/
structure Changed (W W' : World) (c : Nat) (a : Addr) (v' : Value) (gone : Addr → Bool)
    (temps : List Value) : Prop where
  values : W'.values = modifyIn slot a (fun _ => v') forest 0 W.values
  owner : ∀ c', (W'.controller c').owner = (W.controller c').owner
  references : ∀ c', ∀ e ∈ (W'.controller c').referenceMap,
    e ∈ (W.controller c').referenceMap ∧ (c' = c → gone e.1 = false)
  dependencies : ∀ c' p x, (p, x) ∈ (W.controller c').dependencyMap → (c' = c → gone x = false) →
    (∀ t ∈ temps, p ≠ rootAddr t ∧ x ≠ rootAddr t) → (p, x) ∈ (W'.controller c').dependencyMap
  element : ∀ w, (W'.wrapper w).element = (W.wrapper w).element

lemma Dropped.changed {W₀ : World} (next : Nat)
    {dependencies : List (Addr × Addr)} (hdropped : Dropped W W₀ c gone)
    (hdependencies : ∀ p x, (p, x) ∈ (W₀.controller c).dependencyMap →
      (∀ t ∈ temps, p ≠ rootAddr t ∧ x ≠ rootAddr t) → (p, x) ∈ dependencies) :
    Changed W ((W₀.replace a v' next).setController c
      { W₀.controller c with dependencyMap := dependencies }) c a v' gone temps := by
  have hcontroller : ∀ c', ((W₀.replace a v' next).setController c
      { W₀.controller c with dependencyMap := dependencies }).controller c' =
      if c' = c then { W₀.controller c with dependencyMap := dependencies }
        else W₀.controller c' := by
    intro c'
    simp only [setController, update_apply]
    rfl
  refine ⟨?_, fun c' => ?_, fun c' e he => ?_, fun c' p x hx hgone htemps => ?_, fun w => ?_⟩
  · show modifyIn slot a (fun _ => v') forest 0 W₀.values = _
    rw [hdropped.values]
  · rw [hcontroller]
    split
    · rename_i heq
      rw [heq]
      exact hdropped.owner
    · rename_i hne
      rw [hdropped.others c' hne]
  · rw [hcontroller] at he
    split at he
    · rename_i heq
      subst heq
      have he : e ∈ (W₀.controller c').referenceMap := he
      rw [hdropped.references, mem_filter] at he
      exact ⟨he.1, fun _ => by simpa using he.2⟩
    · rename_i hne
      rw [hdropped.others c' hne] at he
      exact ⟨he, fun heq => absurd heq hne⟩
  · rw [hcontroller]
    split
    · rename_i heq
      subst heq
      exact hdependencies p x (hdropped.dependencies p x hx (hgone rfl)) htemps
    · rename_i hne
      rw [hdropped.others c' hne]
      exact hx
  · show (W₀.wrapper w).element = _
    rw [hdropped.wrapper w]
    split <;> rfl

lemma Dropped.changed_replace (next : Nat)
    (hdropped : Dropped W W₁ c gone) : Changed W (W₁.replace a v' next) c a v' gone temps := by
  have hself : (W₁.replace a v' next).setController c { W₁.controller c with
      dependencyMap := (W₁.controller c).dependencyMap } = W₁.replace a v' next := by
    have hupdate : Function.update (W₁.replace a v' next).controller c (W₁.controller c) =
        (W₁.replace a v' next).controller := update_eq_self c _
    show ({ W₁.replace a v' next with
      controller := Function.update (W₁.replace a v' next).controller c (W₁.controller c) } : World) = _
    rw [hupdate]
  rw [← hself]
  exact hdropped.changed next fun p x hx _ => hx

namespace Anchored

variable {gone : Addr → Bool} {i w : Nat} {t v : Value}

lemma ne_rootAddr (h : W.Ownership temps) (ht : t ∈ W.values) {y : Addr}
    (hy : y.block ∈ blocks t) {s : Value} (hs : s ∈ temps) : y ≠ rootAddr s := by
  rintro rfl
  have h₁ := Nat.le_trans (h.memory (rootAddr s).block) (fresh_le_one _ _ _)
  have h₂ := count_pos_iff.mpr (mem_blocksIn.mpr ⟨t, ht, hy⟩)
  have h₃ : 0 < (blocksIn temps).count (rootAddr s).block :=
    count_pos_iff.mpr (mem_blocksIn.mpr ⟨s, hs, cell_mem_blocks s⟩)
  omega

lemma exists_entry {u v' : Value} {e : Entry Label Addr}
    (hfind : u.find slot a (rootAddr u) = some v) (hcell : v'.label.cell = v.label.cell)
    (hkeeps : W.KeepsReferences c a v v' gone) (he : e ∈ u.entries slot none (rootAddr u))
    (hregistered : W.Registered c e.addr) (hgone : gone e.addr = false) :
    ∃ e' ∈ (u.modify slot a (fun _ => v') (rootAddr u)).entries slot none (rootAddr u),
      e'.addr = e.addr ∧ e'.label.cell = e.label.cell ∧ e'.parent = e.parent := by
  obtain ⟨-, ⟨q, ctx, hperm, hperm'⟩, -⟩ := modify_spec hfind hcell
  rcases mem_append.mp (hperm.mem_iff.mp he) with he | he
  · rw [entries_eq] at he
    rcases mem_cons.mp he with rfl | he
    · refine ⟨⟨q, a, v'.label⟩, hperm'.mem_iff.mpr (mem_append_left _ ?_), rfl, hcell, rfl⟩
      rw [entries_eq]
      exact mem_cons_self
    · rcases hkeeps.mem_entriesIn he hregistered with hgone' | he'
      · rw [hgone] at hgone'
        cases hgone'
      · refine ⟨e, hperm'.mem_iff.mpr (mem_append_left _ ?_), rfl, rfl, rfl⟩
        rw [entries_eq]
        exact mem_cons_of_mem _ he'
  · exact ⟨e, hperm'.mem_iff.mpr (mem_append_right _ he), rfl, rfl, rfl⟩

/-- **A changed container**: what is still registered is still in its place.

**Proof sketch.** What is registered in another tree, or in this one and not in the container, is not
touched. What is in the container is there because of the condition on its children. -/
theorem change (v' : Value) (hA : W.Anchored temps)
    (h : W.Ownership temps) (hhosted : W.Hosted c a) (hfind : findIn slot a forest 0 W.values = some v)
    (hcell : v'.label.cell = v.label.cell) (hformed : CefCore.Values.formed v' = true)
    (htemps : formedIn temps' = true) (hkeeps : W.KeepsReferences c a v v' gone)
    (hchanged : Changed W W' c a v' gone temps) : W'.Anchored temps' := by
  obtain ⟨u, wu, hu, howner, hfindu⟩ := hhosted.tree h hfind
  obtain ⟨l₁, u', l₂, hvalues, hfindu', hmodify⟩ := forest_split hfind
  have hmem : u' ∈ W.values := by rw [hvalues]; simp
  obtain rfl := eq_of_count_le_one (h.count_values_le_one _) hu hmem (block_of_find hfindu)
    (block_of_find hfindu')
  have hroot := rootAddr_modify hfindu hcell
  have hvalues' : W'.values = l₁ ++ u.modify slot a (fun _ => v') (rootAddr u) :: l₂ := by
    rw [hchanged.values, hmodify]
  refine ⟨fun c' x w hentry => ?_, ?_, htemps⟩
  · obtain ⟨hentry, hgone⟩ := hchanged.references c' _ hentry
    obtain ⟨t, w', e, p, ht, howner', he, rfl, helement, hp, hdependency⟩ := hA.anchor c' x w hentry
    have hdependency' := hchanged.dependencies c' p e.addr hdependency hgone fun s hs =>
      ⟨ne_rootAddr h ht (block_of_parent he hp) hs, ne_rootAddr h ht (block_of_entry he) hs⟩
    by_cases htu : t = u
    · subst htu
      obtain rfl : c' = c := h.unique c' c _ _ _ howner' howner
      have hregistered : W.Registered c' e.addr := mem_map.mpr ⟨_, hentry, rfl⟩
      obtain ⟨e', he', haddr, hlabel, hparent⟩ :=
        exists_entry hfindu hcell hkeeps he hregistered (hgone rfl)
      refine ⟨t.modify slot a (fun _ => v') (rootAddr t), w', e', p, ?_, ?_, ?_, haddr, ?_, ?_,
        hdependency'⟩
      · rw [hvalues']
        simp
      · rw [hroot, hchanged.owner, howner']
      · rw [hroot]
        exact he'
      · rw [hlabel, helement, hchanged.element]
      · rw [hparent, hp]
    · refine ⟨t, w', e, p, ?_, ?_, he, rfl, ?_, hp, hdependency'⟩
      · rw [hvalues']
        rw [hvalues] at ht
        simp only [mem_append, mem_cons] at ht ⊢
        rcases ht with ht | ht | ht
        · exact .inl ht
        · exact (htu ht).elim
        · exact .inr (.inr ht)
      · rw [hchanged.owner, howner']
      · rw [helement, hchanged.element]
  · rw [hchanged.values]
    exact (formed_modifyIn hformed forest 0 W.values hA.shape).2

section

variable (hA : W.Anchored temps)
include hA

lemma gone_child (h : W.Ownership temps) (hhosted : W.Hosted c a)
    (hfind : findIn slot a forest 0 W.values = some v) (ht : v.children[i]? = some t)
    (hlinked : W.Linked c (slot v.label i t.label) t) (hself : gone (slot v.label i t.label) = true)
    (hgone : t.label.kind.isContainer = true → ∀ x, Relation.TransGen
      (fun p x => (p, x) ∈ (W.controller c).dependencyMap ∧ x ≠ slot v.label i t.label)
      (slot v.label i t.label) x → gone x = true) :
    ∀ e ∈ t.entries slot (some a) (slot v.label i t.label), W.Registered c e.addr →
      gone e.addr = true := by
  obtain ⟨u, w, hu, howner, hfindu⟩ := hhosted.tree h hfind
  have hchild : (t.entries slot (some a) (slot v.label i t.label)).Sublist
      (entriesIn slot (some a) v.label 0 v.children) := by
    have := entries_sublist_entriesIn slot (some a) v.label (k := 0) ht
    rwa [Nat.zero_add] at this
  intro e he hregistered
  rw [entries_eq] at he
  rcases mem_cons.mp he with rfl | he
  · exact hself
  · cases hkind : t.label.kind.isContainer with
    | true =>
      refine gone_of_linked (q := some a) hA h hu howner (fun e he => ?_) ?_ hlinked (hgone hkind) e he
        hregistered
      · exact entriesIn_of_find hfindu e (hchild.mem he)
      · obtain ⟨q, ctx, hperm, -⟩ := exists_context slot none (rootAddr u) u v hfindu
        have hnodup := (hperm.map (·.addr)).nodup_iff.mp (h.nodup_addrs hu)
        rw [entries_eq, cons_append] at hnodup
        refine hnodup.sublist (List.Sublist.map _ ?_)
        exact (hchild.trans (sublist_append_left _ _)).trans (sublist_cons_self _ _)
    | false =>
      have hformed := formed_findIn forest 0 W.values hA.shape hfind
      have hempty := (formed_iff.mp ((formed_iff.mp hformed).2 t (mem_of_getElem? ht))).1 hkind
      rw [hempty] at he
      simp [entriesIn] at he

/-! ### What leaves the trees alone -/

lemma of_same (htemps : formedIn temps' = true) (hshape : formedIn W'.values = true)
    (hreferences : ∀ c x w, (x, w) ∈ (W'.controller c).referenceMap →
      (x, w) ∈ (W.controller c).referenceMap ∧ (W'.wrapper w).element = (W.wrapper w).element ∧
      (∀ t w', t ∈ W.values → (W.controller c).owner = some (rootAddr t, w') →
        t ∈ W'.values ∧ (W'.controller c).owner = some (rootAddr t, w')) ∧
      ∀ p, (p, x) ∈ (W.controller c).dependencyMap → (p, x) ∈ (W'.controller c).dependencyMap) :
    W'.Anchored temps' := by
  refine ⟨fun c x w hentry => ?_, hshape, htemps⟩
  obtain ⟨hentry, helement, htree, hdependencies⟩ := hreferences c x w hentry
  obtain ⟨t, w', e, p, ht, howner, he, haddr, hcell, hp, hdependency⟩ := hA.anchor c x w hentry
  obtain ⟨ht', howner'⟩ := htree t w' ht howner
  exact ⟨t, w', e, p, ht', howner', he, haddr, by rw [helement, hcell], hp, hdependencies p hdependency⟩

lemma make (next : Nat) (hv : CefCore.Values.formed v = true) :
    { W with next := next }.Anchored (v :: temps) := by
  refine hA.of_same ?_ hA.shape fun c x w hentry => ⟨hentry, rfl, fun t w' ht howner => ⟨ht, howner⟩,
    fun p => id⟩
  rw [formedIn, hv, hA.shape_temps]
  rfl

lemma setObjects (object : Nat → CefValueImpl) (objects : Nat) :
    { W with object := object, objects := objects }.Anchored temps :=
  ⟨hA.anchor, hA.shape, hA.shape_temps⟩

section

variable (h : W.Ownership temps)
include h

lemma newOwner {next : Nat} (type : ValueType) (hv : CefCore.Values.formed v = true) :
    (W.newOwner type v next).Anchored temps := by
  refine hA.of_same hA.shape_temps ?_ fun c x w hentry => ?_
  · show formedIn (v :: W.values) = true
    rw [formedIn, hv, hA.shape]
    rfl
  · have hc : c ≠ W.controllers := by
      rintro rfl
      simp [World.newOwner, CefValueController.setOwner, CefValueController.new] at hentry
    simp only [World.newOwner, update_of_ne hc] at hentry ⊢
    have hw : w ≠ W.wrappers := Nat.ne_of_lt (h.holder c _ hentry).1
    rw [update_of_ne hw]
    exact ⟨hentry, rfl, fun t w' ht howner => ⟨mem_cons_of_mem _ ht, howner⟩, fun p => id⟩

lemma newReference {new : Wrapper} (hhosted : W.Hosted c a)
    (hfind : findIn slot a forest 0 W.values = some v) (ht : v.children[i]? = some t)
    (helement : new.element = t.label.cell)
    (href : NewReference W W' c (slot v.label i t.label) a new) : W'.Anchored temps := by
  obtain ⟨u, w, hu, howner, hfindu⟩ := hhosted.tree h hfind
  refine ⟨fun c' x w' hentry => ?_, by rw [href.values]; exact hA.shape, hA.shape_temps⟩
  have howner' : ∀ c', (W'.controller c').owner = (W.controller c').owner := by
    intro c'
    by_cases heq : c' = c
    · rw [heq, href.owner]
    · rw [href.others c' heq]
  have hold : (x, w') ∈ (W.controller c').referenceMap → W'.Anchor c' x (W'.wrapper w').element := by
    intro hentry
    obtain ⟨s, w'', e, p, hs, hs', he, haddr, hcell, hp, hdependency⟩ := hA.anchor c' x w' hentry
    have hne : w' ≠ W.wrappers := Nat.ne_of_lt (h.holder c' _ hentry).1
    refine ⟨s, w'', e, p, by rw [href.values]; exact hs, by rw [howner', hs'], he, haddr, ?_, hp, ?_⟩
    · rw [href.wrapper, if_neg hne, hcell]
    · by_cases heq : c' = c
      · subst heq
        exact href.dependencies _ hdependency
      · rw [href.others c' heq]
        exact hdependency
  by_cases heq : c' = c
  · subst heq
    rw [href.references] at hentry
    rcases mem_cons.mp hentry with hnew | hentry
    · cases hnew
      refine ⟨u, w, ⟨some a, slot v.label i t.label, t.label⟩, a, by rw [href.values]; exact hu,
        by rw [howner', howner], entriesIn_of_find hfindu _ ?_, rfl, ?_, rfl, href.dependency⟩
      · refine (PlacedTree.mem_entriesIn slot (some a) v.label).mpr ⟨i, t, ht, ?_⟩
        rw [Nat.zero_add, entries_eq]
        exact mem_cons_self
      · rw [href.wrapper, if_pos rfl, helement]
    · exact hold hentry
  · rw [href.others c' heq] at hentry
    exact hold hentry

lemma getOrCreateRef (hhosted : W.Hosted c a) (hfind : findIn slot a forest 0 W.values = some v)
    (ht : v.children[i]? = some t) (type : ValueType) (readOnly : Bool) :
    (W.getOrCreateRef c type (slot v.label i t.label) a readOnly t.label.cell).2.Anchored temps := by
  rcases getOrCreateRef_cases W c type (slot v.label i t.label) a readOnly t.label.cell with
    ⟨w, -, heq⟩ | ⟨-, href⟩
  · rw [heq]
    exact hA
  · exact hA.newReference h hhosted hfind ht rfl href

lemma detached {n : Nat} (hv : v ∈ W.values) (hmode : (W.wrapper w).mode = .ownerWillDelete)
    (hattached : (W.wrapper w).attachment = some (c, rootAddr v))
    (hbare : (W.controller c).referenceMap = []) (hdetached : Detached W W' w c n v) :
    W'.Anchored (v :: temps) := by
  have hvowner := (h.owner_iff c _ w).mpr ⟨hmode, hattached⟩
  refine hA.of_same ?_ ?_ fun c' x w' hentry => ?_
  · rw [formedIn, formedIn_iff.mp hA.shape v hv, hA.shape_temps]
    rfl
  · rw [hdetached.values]
    exact formedIn_iff.mpr fun t ht => formedIn_iff.mp hA.shape t (mem_of_mem_filter ht)
  · have hc' : c' ≠ c := by
      rintro rfl
      rw [hdetached.left] at hentry
      simp [CefValueController.new] at hentry
    have hcontroller : (W'.controller c').owner = (W.controller c').owner ∧
        (W'.controller c').referenceMap = (W.controller c').referenceMap ∧
        ∀ e ∈ (W.controller c').dependencyMap, e ∈ (W'.controller c').dependencyMap := by
      by_cases heq : c' = n
      · rw [heq, hdetached.taken]
        exact ⟨rfl, CefValueController.takeFrom_referenceMap_of_nil hbare,
          fun e => CefValueController.mem_takeFrom_dependencyMap⟩
      · rw [hdetached.others c' heq hc']
        exact ⟨rfl, rfl, fun e => id⟩
    obtain ⟨howner, hreferences, hdependencies⟩ := hcontroller
    refine ⟨hreferences ▸ hentry, ?_, fun t w'' ht ht' => ⟨?_, howner.trans ht'⟩,
      fun p => hdependencies _⟩
    · rw [hdetached.wrapper]
      split
      · rename_i heq
        rw [heq]
        rfl
      · rfl
    · rw [hdetached.values]
      refine mem_filter.mpr ⟨ht, ?_⟩
      have hne : rootAddr t ≠ rootAddr v := fun heq => hc' (h.unique c' c _ _ _ (heq ▸ ht') hvowner)
      simpa using hne

lemma deleted (hmode : (W.wrapper w).mode = .ownerWillDelete)
    (hattached : (W.wrapper w).attachment = some (c, a)) (hdeleted : Deleted W W' w c a) :
    W'.Anchored temps := by
  have hvowner := (h.owner_iff c _ w).mpr ⟨hmode, hattached⟩
  refine hA.of_same hA.shape_temps ?_ fun c' x w' hentry => ?_
  · rw [hdeleted.values]
    exact formedIn_iff.mpr fun t ht => formedIn_iff.mp hA.shape t (mem_of_mem_filter ht)
  · have hc' : c' ≠ c := by
      rintro rfl
      rw [hdeleted.left] at hentry
      simp [CefValueController.new] at hentry
    rw [hdeleted.others c' hc'] at hentry ⊢
    have hw' : w' ≠ w := by
      rintro rfl
      have := (h.holder c' _ hentry).2
      rw [hmode] at this
      cases this
    refine ⟨hentry, ?_, fun t w'' ht ht' => ⟨?_, ht'⟩, fun p => id⟩
    · rw [hdeleted.wrapper w' hw']
      split <;> rfl
    · rw [hdeleted.values]
      refine mem_filter.mpr ⟨ht, ?_⟩
      have hne : rootAddr t ≠ a := fun heq => hc' (h.unique c' c _ _ _ (heq ▸ ht') hvowner)
      simpa using hne

end

lemma released (hreleased : Released W W' w c a) : W'.Anchored temps := by
  refine hA.of_same hA.shape_temps (by rw [hreleased.values]; exact hA.shape) fun c' x w' hentry => ?_
  have hentry' : (x, w') ∈ (W.controller c').referenceMap ∧ (c' = c → x ≠ a) := by
    by_cases heq : c' = c
    · subst heq
      rw [hreleased.references, mem_filter] at hentry
      exact ⟨hentry.1, fun _ => by simpa using hentry.2⟩
    · rw [hreleased.others c' heq] at hentry
      exact ⟨hentry, fun heq' => absurd heq' heq⟩
  refine ⟨hentry'.1, ?_, fun t w'' ht ht' => ⟨by rw [hreleased.values]; exact ht, ?_⟩, fun p hp => ?_⟩
  · rw [hreleased.wrapper]
    split
    · rename_i heq
      rw [heq]
      rfl
    · rfl
  · by_cases heq : c' = c
    · subst heq
      rw [hreleased.owner, ht']
    · rw [hreleased.others c' heq, ht']
  · by_cases heq : c' = c
    · subst heq
      exact hreleased.dependencies p x hp (hentry'.2 rfl)
    · rw [hreleased.others c' heq]
      exact hp

lemma destroy {held : List Nat} (h : W.Ownership temps)
    (hdestroy : W.destroy held w = .ok W') : W'.Anchored temps := by
  rcases h.destroy_cases hdestroy with ⟨-, rfl⟩ | ⟨c, a, ha, -, ⟨-, hreleased⟩ | ⟨hmode, hdeleted⟩⟩
  · refine hA.of_same hA.shape_temps hA.shape fun c x w' hentry => ⟨hentry, ?_,
      fun t w'' ht ht' => ⟨ht, ht'⟩, fun p => id⟩
    simp only [setWrapper, update_apply]
    split
    · rename_i heq
      rw [heq]
    · rfl
  · exact hA.released hreleased
  · exact hA.deleted h hmode ha hdeleted

end

end Anchored

end CefCore.Values.World
