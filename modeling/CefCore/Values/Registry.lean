import CefCore.Values.Ownership

/-!
# The registry of the controllers

A controller has an entry for a value if and only if a live wrapper refers to that value and is
attached to that controller. `TakeFrom` moves the entries of a controller to another one and the
wrappers stay attached to the old one, so this holds in the runs that give a value away only while
nothing refers to what is in it. That every wrapper is for a value which is still there takes more
(`registry_coherent`).

## Main results

* `Coherent.step`: a call keeps the registry.
-/

namespace CefCore.Values.World

open PlacedTree List Option Function

variable {W W' W₁ : World} {c : Nat} {a b : Addr} {temps temps' : List Value}

/-- The entries of the controllers are the attached references; what `Get` returns is alive; and
every attached wrapper is for a value that is in the tree of its controller's owner. -/
structure RegistryCoherent (W : World) : Prop where
  entry_iff : ∀ c x w, (x, w) ∈ (W.controller c).referenceMap ↔
    (W.wrapper w).alive = true ∧ (W.wrapper w).mode = .reference ∧
      (W.wrapper w).attachment = some (c, x)
  get_alive : ∀ c x w, (W.controller c).get x = some w →
    (W.wrapper w).alive = true ∧ (W.wrapper w).attachment = some (c, x)
  locks_owner : ∀ w c x, (W.wrapper w).attachment = some (c, x) → ∃ t w', t ∈ W.values ∧
    (W.controller c).owner = some (rootAddr t, w') ∧ (t.find slot x (rootAddr t)).isSome = true

/-- The wrapper does not own a value, or nothing refers to what is in it. -/
def Bare (W : World) (w : Nat) : Prop :=
  match (W.wrapper w).mode, (W.wrapper w).attachment with
  | .ownerWillDelete, some (c, _) => (W.controller c).referenceMap = []
  | _, _ => True

instance (W : World) (w : Nat) : Decidable (W.Bare w) := by
  unfold Bare
  split <;> infer_instance

/-- The value that a `Set` takes over is bare. -/
def TransfersBare (W : World) (op : Op) : Prop := ∀ arg ∈ op.argument W, W.Bare arg

instance (W : World) (op : Op) : Decidable (W.TransfersBare op) :=
  inferInstanceAs (Decidable (∀ arg ∈ op.argument W, W.Bare arg))

variable {v : Value} {w : Nat}

lemma Bare.referenceMap (h : W.Bare w) (hmode : (W.wrapper w).mode = .ownerWillDelete)
    (ha : (W.wrapper w).attachment = some (c, a)) : (W.controller c).referenceMap = [] := by
  unfold Bare at h
  rw [hmode, ha] at h
  exact h

/-- The invariant: the entries are those of the attached references, and a key in a value belongs to
the controller of the value. -/
structure Coherent (W : World) (temps : List Value) : Prop where
  entry_iff : ∀ c x w, (x, w) ∈ (W.controller c).referenceMap ↔
    (W.wrapper w).mode = .reference ∧ (W.wrapper w).attachment = some (c, x)
  home : ∀ c, ∀ e ∈ (W.controller c).referenceMap, ∀ t ∈ W.values, e.1.block ∈ blocks t →
    ∃ w, (W.controller c).owner = some (rootAddr t, w)
  away : ∀ c, ∀ e ∈ (W.controller c).referenceMap, ∀ t ∈ temps, e.1.block ∉ blocks t

/-! ### Addresses and their trees -/

lemma block_of_find {t : Value} {x : Addr} (h : t.find slot x (rootAddr t) = some v) :
    x.block ∈ blocks t := by
  have hne : t.find slot x (rootAddr t) ≠ none := by simp [h]
  rw [Ne, find_eq_none_iff slot none] at hne
  push Not at hne
  obtain ⟨e, he, rfl⟩ := hne
  rcases addr_block none (rootAddr t) t e he with rfl | hblock
  · exact cell_mem_blocks t
  · exact mem_blocks_of_mem_innerBlocks hblock

def Hosted (W : World) (c : Nat) (a : Addr) : Prop :=
  ∃ t w, t ∈ W.values ∧ a.block ∈ blocks t ∧ (W.controller c).owner = some (rootAddr t, w)

lemma Coherent.owner_of_attached {t : Value} (hr : W.Coherent temps)
    (h : W.Ownership temps) (ha : (W.wrapper w).attachment = some (c, a)) (ht : t ∈ W.values)
    (hblock : a.block ∈ blocks t) : ∃ w', (W.controller c).owner = some (rootAddr t, w') := by
  cases hmode : (W.wrapper w).mode with
  | ownerNoDelete => exact ((h.attached w c a ha).2.1 hmode).elim
  | reference => exact hr.home c (a, w) ((hr.entry_iff c a w).mpr ⟨hmode, ha⟩) t ht hblock
  | ownerWillDelete =>
    have howner := (h.owner_iff c a w).mpr ⟨hmode, ha⟩
    obtain ⟨u, hu, rfl⟩ := h.root c a w howner
    obtain rfl := eq_of_count_le_one (h.count_values_le_one _) hu ht (cell_mem_blocks u) hblock
    exact ⟨w, howner⟩

lemma Coherent.hosted (hr : W.Coherent temps) (h : W.Ownership temps)
    (ha : (W.wrapper w).attachment = some (c, a))
    (hfind : findIn slot a forest 0 W.values = some v) : W.Hosted c a := by
  obtain ⟨l₁, t, l₂, hvalues, ht, -⟩ := forest_split hfind
  have hmem : t ∈ W.values := by rw [hvalues]; simp
  have hblock := block_of_find ht
  obtain ⟨w', howner⟩ := hr.owner_of_attached h ha hmem hblock
  exact ⟨t, w', hmem, hblock, howner⟩

lemma Hosted.inner {n : Nat} (hhosted : W.Hosted c a) (h : W.Ownership temps)
    (hfind : findIn slot a forest 0 W.values = some v) (hn : n ∈ innerBlocks v) :
    ∃ u w, u ∈ W.values ∧ n ∈ innerBlocks u ∧ (W.controller c).owner = some (rootAddr u, w) := by
  obtain ⟨t, w, ht, hblock, howner⟩ := hhosted
  obtain ⟨l₁, u, l₂, hvalues, hu, -⟩ := forest_split hfind
  have hmem : u ∈ W.values := by rw [hvalues]; simp
  obtain rfl := eq_of_count_le_one (h.count_values_le_one _) ht hmem hblock (block_of_find hu)
  refine ⟨t, w, ht, count_pos_iff.mp ?_, howner⟩
  exact Nat.lt_of_lt_of_le (count_pos_iff.mpr hn) (count_innerBlocks_find hu n)

lemma Hosted.replace {v' : Value} (next : Nat) (hhosted : W.Hosted c a) (h : W.Ownership temps)
    (hfind : findIn slot a forest 0 W.values = some v) (hcell : v'.label.cell = v.label.cell) :
    (W.replace a v' next).Hosted c a := by
  obtain ⟨t, w, ht, hblock, howner⟩ := hhosted
  obtain ⟨l₁, u, l₂, hvalues, hu, hmodify⟩ := forest_split hfind
  have hmem : u ∈ W.values := by rw [hvalues]; simp
  obtain rfl := eq_of_count_le_one (h.count_values_le_one _) ht hmem hblock (block_of_find hu)
  have hroot := rootAddr_modify hu hcell
  refine ⟨t.modify slot a (fun _ => v') (rootAddr t), w, ?_, ?_, ?_⟩
  · show _ ∈ modifyIn slot a (fun _ => v') forest 0 W.values
    rw [hmodify]
    simp
  · refine block_of_find (v := v') ?_
    rw [hroot]
    exact find_modify slot (f := fun _ => v') (slot_congr hcell) _ t hu
  · rw [hroot]
    exact howner

lemma Hosted.dropped {gone : Addr → Bool} (hhosted : W.Hosted c a) (hdropped : Dropped W W' c gone) :
    W'.Hosted c a := by
  obtain ⟨t, w, ht, hblock, howner⟩ := hhosted
  exact ⟨t, w, by rw [hdropped.values]; exact ht, hblock, by rw [hdropped.owner]; exact howner⟩

/-! ### What keeps the registry coherent -/

namespace Coherent

lemma dropped {gone : Addr → Bool} (hr : W.Coherent temps)
    (hdropped : Dropped W W' c gone) : W'.Coherent temps := by
  have howner : ∀ c', (W'.controller c').owner = (W.controller c').owner := by
    intro c'
    by_cases heq : c' = c
    · rw [heq, hdropped.owner]
    · rw [hdropped.others c' heq]
  have hmem : ∀ c' e, e ∈ (W'.controller c').referenceMap ↔
      e ∈ (W.controller c').referenceMap ∧ ¬ (c' = c ∧ gone e.1 = true) := by
    intro c' e
    by_cases heq : c' = c
    · rw [heq, hdropped.references, mem_filter]
      simp
    · rw [hdropped.others c' heq]
      simp [heq]
  have hdetached : ∀ w, w ∈ ((W.controller c).referenceMap.filter fun e => gone e.1).map (·.2) ↔
      ∃ x, (W.wrapper w).mode = .reference ∧ (W.wrapper w).attachment = some (c, x) ∧
        gone x = true := by
    intro w
    simp only [List.mem_map, mem_filter]
    constructor
    · rintro ⟨⟨x, w⟩, ⟨he, hgone⟩, rfl⟩
      obtain ⟨hmode, ha⟩ := (hr.entry_iff c x w).mp he
      exact ⟨x, hmode, ha, hgone⟩
    · rintro ⟨x, hmode, ha, hgone⟩
      exact ⟨(x, w), ⟨(hr.entry_iff c x w).mpr ⟨hmode, ha⟩, hgone⟩, rfl⟩
  refine ⟨fun c' x w => ?_, fun c' e he => ?_, fun c' e he => ?_⟩
  · rw [hmem, hr.entry_iff, hdropped.wrapper]
    have hw := hdetached w
    split
    · rename_i hdrop
      obtain ⟨y, hmode, ha, hgone⟩ := hw.mp hdrop
      simp only [Wrapper.detach, reduceCtorEq, and_false, iff_false, not_and, ha]
      rintro ⟨-, hx⟩ hkeep
      cases hx
      exact hkeep rfl hgone
    · rename_i hkeep
      rw [and_iff_left_of_imp]
      rintro ⟨hmode, hx⟩ ⟨rfl, hgone⟩
      exact hkeep (hw.mpr ⟨x, hmode, hx, hgone⟩)
  · rw [hdropped.values, howner]
    exact hr.home c' e ((hmem c' e).mp he).1
  · exact hr.away c' e ((hmem c' e).mp he).1

lemma of_same (hr : W.Coherent temps) (hwrapper : W'.wrapper = W.wrapper)
    (howner : ∀ c, (W'.controller c).owner = (W.controller c).owner)
    (hreferences : ∀ c, (W'.controller c).referenceMap = (W.controller c).referenceMap)
    (hhome : ∀ c, ∀ e ∈ (W.controller c).referenceMap, ∀ t ∈ W'.values, e.1.block ∈ blocks t →
      ∃ u ∈ W.values, rootAddr u = rootAddr t ∧ e.1.block ∈ blocks u)
    (haway : ∀ c, ∀ e ∈ (W.controller c).referenceMap, ∀ t ∈ temps', e.1.block ∉ blocks t) :
    W'.Coherent temps' := by
  refine ⟨fun c x w => ?_, fun c e he t ht hblock => ?_, fun c e he => ?_⟩
  · rw [hreferences, hwrapper]
    exact hr.entry_iff c x w
  · rw [hreferences] at he
    obtain ⟨u, hu, hroot, hblock⟩ := hhome c e he t ht hblock
    rw [howner, ← hroot]
    exact hr.home c e he u hu hblock
  · rw [hreferences] at he
    exact haway c e he

variable {held : List Nat} {next w : Nat} {u v : Value}

section

variable (hr : W.Coherent temps)
include hr

lemma replace {v' : Value} {extra : List Nat}
    (h : W.Ownership temps) (hfind : findIn slot a forest 0 W.values = some v)
    (hbuilt : Built v extra W.next v' next) (hextra : ∀ b ∈ extra, b ∈ blocksIn temps)
    (hsub : ∀ t ∈ temps', t ∈ temps) : (W.replace a v' next).Coherent temps' := by
  obtain ⟨l₁, u, l₂, hvalues, hu, hmodify⟩ := forest_split hfind
  obtain ⟨-, -, hcount⟩ := modify_spec hu hbuilt.cell
  refine hr.of_same rfl (fun _ => rfl) (fun _ => rfl) (fun c e he t ht hblock => ?_)
    fun c e he t ht => hr.away c e he t (hsub t ht)
  have ht : t ∈ l₁ ++ u.modify slot a (fun _ => v') (rootAddr u) :: l₂ := by
    rw [← hmodify]
    exact ht
  rw [hvalues]
  rcases mem_append.mp ht with ht | ht
  · exact ⟨t, by simp [ht], rfl, hblock⟩
  rcases mem_cons.mp ht with rfl | ht
  · refine ⟨u, by simp, (rootAddr_modify hu hbuilt.cell).symm, count_pos_iff.mp ?_⟩
    have hnot : e.1.block ∉ extra := fun hmem => by
      obtain ⟨t, ht, hmem⟩ := mem_blocksIn.mp (hextra _ hmem)
      exact hr.away c e he t ht hmem
    have h₁ := count_pos_iff.mpr hblock
    have h₂ := hcount e.1.block
    have h₃ := hbuilt.count_le e.1.block
    have h₄ := count_eq_zero_of_not_mem hnot
    rw [fresh_eq_zero (h.key c e he).1] at h₃
    omega
  · exact ⟨t, by simp [ht], rfl, hblock⟩

lemma setDependencies (c : Nat) (dependencies : List (Addr × Addr)) :
    (W.setController c { W.controller c with dependencyMap := dependencies }).Coherent temps := by
  have hcontroller : ∀ c', (W.setController c { W.controller c with
      dependencyMap := dependencies }).controller c' = if c' = c then
        { W.controller c with dependencyMap := dependencies } else W.controller c' := by
    intro c'
    simp [setController, update_apply]
  refine hr.of_same rfl (fun c' => ?_) (fun c' => ?_) (fun c' e he t ht hblock => ⟨t, ht, rfl, hblock⟩)
    hr.away
  · rw [hcontroller]
    split
    · rename_i heq
      rw [heq]
    · rfl
  · rw [hcontroller]
    split
    · rename_i heq
      rw [heq]
    · rfl

section

variable (h : W.Ownership temps)
include h

lemma make (hcount : ∀ b, (blocks v).count b ≤ fresh W.next next b) :
    { W with next := next }.Coherent (v :: temps) := by
  refine hr.of_same rfl (fun _ => rfl) (fun _ => rfl) (fun c e he t ht hblock => ⟨t, ht, rfl, hblock⟩)
    fun c e he t ht => ?_
  rcases mem_cons.mp ht with rfl | ht
  · intro hblock
    have h₁ := count_pos_iff.mpr hblock
    have h₂ := hcount e.1.block
    rw [fresh_eq_zero (h.key c e he).1] at h₂
    omega
  · exact hr.away c e he t ht

lemma newOwner (type : ValueType) (hcount : ∀ b, (blocks v).count b ≤ fresh W.next next b) :
    (W.newOwner type v next).Coherent temps := by
  have hmake := hr.make h hcount
  have hreferences : ∀ c e, e ∈ ((W.newOwner type v next).controller c).referenceMap →
      c ≠ W.controllers ∧ e ∈ (W.controller c).referenceMap := by
    intro c e he
    by_cases heq : c = W.controllers
    · subst heq
      simp [World.newOwner, CefValueController.setOwner, CefValueController.new] at he
    · simp only [World.newOwner, update_of_ne heq] at he
      exact ⟨heq, he⟩
  refine ⟨fun c x w => ?_, fun c e he t ht hblock => ?_, fun c e he => ?_⟩
  · constructor
    · intro he
      obtain ⟨-, he⟩ := hreferences c _ he
      have hne : w ≠ W.wrappers := Nat.ne_of_lt (h.holder c _ he).1
      simp only [World.newOwner, update_of_ne hne]
      exact (hr.entry_iff c x w).mp he
    · rintro ⟨hmode, hx⟩
      by_cases heq : w = W.wrappers
      · subst heq
        simp [World.newOwner] at hmode
      · simp only [World.newOwner, update_of_ne heq] at hmode hx
        have hne : c ≠ W.controllers := Nat.ne_of_lt (h.attached w c x hx).2.2
        simp only [World.newOwner, update_of_ne hne]
        exact (hr.entry_iff c x w).mpr ⟨hmode, hx⟩
  · obtain ⟨hne, he'⟩ := hreferences c e he
    simp only [World.newOwner, update_of_ne hne]
    rcases mem_cons.mp ht with rfl | ht
    · exact (hmake.away c e he' t mem_cons_self hblock).elim
    · exact hr.home c e he' t ht hblock
  · exact hr.away c e (hreferences c e he).2

lemma newReference {x parent : Addr} {new : Wrapper} (hu : u ∈ W.values) (hx : x.block ∈ innerBlocks u)
    (howner : (W.controller c).owner = some (rootAddr u, w)) (hmode : new.mode = .reference)
    (hnew : new.attachment = some (c, x)) (href : NewReference W W' c x parent new) :
    W'.Coherent temps := by
  have hblock := mem_blocks_of_mem_innerBlocks hx
  have howner' : ∀ c', (W'.controller c').owner = (W.controller c').owner := by
    intro c'
    by_cases heq : c' = c
    · rw [heq, href.owner]
    · rw [href.others c' heq]
  have hmem : ∀ c' e, e ∈ (W'.controller c').referenceMap ↔
      c' = c ∧ e = (x, W.wrappers) ∨ e ∈ (W.controller c').referenceMap := by
    intro c' e
    by_cases heq : c' = c
    · rw [heq, href.references, mem_cons]
      simp
    · rw [href.others c' heq]
      simp [heq]
  refine ⟨fun c' y w' => ?_, fun c' e he t ht hmem' => ?_, fun c' e he t ht hmem' => ?_⟩
  · rw [hmem, href.wrapper]
    split
    · rename_i heq
      subst heq
      have hnot : (y, W.wrappers) ∉ (W.controller c').referenceMap := fun he =>
        absurd (h.holder c' _ he).1 (Nat.lt_irrefl _)
      simp only [hnot, or_false, Prod.mk.injEq, and_true, hmode, hnew, some.injEq, true_and]
      exact ⟨fun ⟨h₁, h₂⟩ => ⟨h₁.symm, h₂.symm⟩, fun ⟨h₁, h₂⟩ => ⟨h₁.symm, h₂.symm⟩⟩
    · rename_i hne
      simp only [Prod.mk.injEq, hne, and_false, false_or]
      exact hr.entry_iff c' y w'
  · rw [href.values] at ht
    rw [howner']
    rcases (hmem c' e).mp he with ⟨rfl, rfl⟩ | he
    · obtain rfl := eq_of_count_le_one (h.count_values_le_one _) hu ht hblock hmem'
      exact ⟨w, howner⟩
    · exact hr.home c' e he t ht hmem'
  · rcases (hmem c' e).mp he with ⟨rfl, rfl⟩ | he
    · have h₁ := Nat.le_trans (h.memory x.block) (fresh_le_one _ _ _)
      have h₂ := count_pos_iff.mpr (mem_blocksIn.mpr ⟨u, hu, hblock⟩)
      have h₃ : 0 < (blocksIn temps).count x.block :=
        count_pos_iff.mpr (mem_blocksIn.mpr ⟨t, ht, hmem'⟩)
      omega
    · exact hr.away c' e he t ht hmem'

lemma detached {n : Nat}
    (hcn : c ≠ n) (hv : v ∈ W.values) (hmode : (W.wrapper w).mode = .ownerWillDelete)
    (hattached : (W.wrapper w).attachment = some (c, rootAddr v))
    (hbare : (W.controller c).referenceMap = []) (hdetached : Detached W W' w c n v) :
    W'.Coherent (v :: temps) := by
  have howner := (h.owner_iff c _ w).mpr ⟨hmode, hattached⟩
  have hreferences : ∀ c', (W'.controller c').referenceMap = (W.controller c').referenceMap := by
    intro c'
    by_cases hc' : c' = c
    · rw [hc', hdetached.left, hbare]
      rfl
    · by_cases heq : c' = n
      · rw [heq, hdetached.taken, CefValueController.takeFrom_referenceMap_of_nil hbare]
      · rw [hdetached.others c' heq hc']
  have hne : ∀ c' e, e ∈ (W.controller c').referenceMap → c' ≠ c := by
    rintro c' e he rfl
    rw [hbare] at he
    cases he
  have howner' : ∀ c', c' ≠ c → (W'.controller c').owner = (W.controller c').owner := by
    intro c' hc'
    by_cases heq : c' = n
    · rw [heq, hdetached.taken]
      rfl
    · rw [hdetached.others c' heq hc']
  refine ⟨fun c' x w' => ?_, fun c' e he t ht hblock => ?_, fun c' e he t ht hblock => ?_⟩
  · rw [hreferences, hr.entry_iff, hdetached.wrapper]
    split
    · rename_i heq
      subst heq
      simp [hmode, Wrapper.detach]
    · rfl
  · rw [hreferences] at he
    rw [hdetached.values] at ht
    rw [howner' c' (hne c' e he)]
    exact hr.home c' e he t (mem_of_mem_filter ht) hblock
  · rw [hreferences] at he
    rcases mem_cons.mp ht with rfl | ht
    · obtain ⟨w', hw'⟩ := hr.home c' e he t hv hblock
      exact hne c' e he (h.unique c' c _ _ _ hw' howner)
    · exact hr.away c' e he t ht hblock

end

lemma deleted (hmode : (W.wrapper w).mode = .ownerWillDelete)
    (hdeleted : Deleted W W' w c a) : W'.Coherent temps := by
  have hreferences : ∀ c' e, e ∈ (W'.controller c').referenceMap ↔
      c' ≠ c ∧ e ∈ (W.controller c').referenceMap := by
    intro c' e
    by_cases hc' : c' = c
    · rw [hc', hdeleted.left]
      simp [CefValueController.new]
    · rw [hdeleted.others c' hc']
      simp [hc']
  refine ⟨fun c' x w' => ?_, fun c' e he t ht hblock => ?_, fun c' e he => ?_⟩
  · rw [hreferences, hr.entry_iff]
    by_cases hw' : w' = w
    · rw [hw', hdeleted.deleted.1, hmode]
      simp
    · rw [hdeleted.wrapper w' hw']
      split
      · rename_i hmem
        obtain ⟨⟨y, w'⟩, he, rfl⟩ := mem_map.mp hmem
        obtain ⟨-, ha⟩ := (hr.entry_iff c y w').mp he
        simp only [Wrapper.detach, reduceCtorEq, and_false, iff_false, not_and, ha]
        rintro hne - hx
        exact hne (Prod.mk.inj (some.inj hx)).1.symm
      · rename_i hmem
        rw [and_iff_right_of_imp]
        rintro ⟨hmode', hx⟩ rfl
        exact hmem (mem_map.mpr ⟨(x, w'), (hr.entry_iff _ _ _).mpr ⟨hmode', hx⟩, rfl⟩)
  · obtain ⟨hne, he⟩ := (hreferences c' e).mp he
    rw [hdeleted.values] at ht
    rw [hdeleted.others c' hne]
    exact hr.home c' e he t (mem_of_mem_filter ht) hblock
  · exact hr.away c' e ((hreferences c' e).mp he).2

lemma released (h : W.Ownership temps)
    (hmode : (W.wrapper w).mode = .reference) (hattached : (W.wrapper w).attachment = some (c, a))
    (hreleased : Released W W' w c a) : W'.Coherent temps := by
  have hentry := (hr.entry_iff c a w).mpr ⟨hmode, hattached⟩
  have howner : ∀ c', (W'.controller c').owner = (W.controller c').owner := by
    intro c'
    by_cases heq : c' = c
    · rw [heq, hreleased.owner]
    · rw [hreleased.others c' heq]
  have hmem : ∀ c' e, e ∈ (W'.controller c').referenceMap ↔
      e ∈ (W.controller c').referenceMap ∧ ¬ (c' = c ∧ e.1 = a) := by
    intro c' e
    by_cases heq : c' = c
    · rw [heq, hreleased.references, mem_filter]
      simp
    · rw [hreleased.others c' heq]
      simp [heq]
  refine ⟨fun c' x w' => ?_, fun c' e he => ?_, fun c' e he => ?_⟩
  · rw [hmem, hreleased.wrapper]
    split
    · rename_i heq
      subst heq
      simp only [hr.entry_iff, Wrapper.detach, reduceCtorEq, and_false, iff_false, not_and,
        and_imp, hattached]
      rintro - hx
      cases hx
      exact fun hkeep => hkeep rfl rfl
    · rename_i hne
      rw [← hr.entry_iff]
      refine and_iff_left_of_imp fun he => ?_
      rintro ⟨rfl, hxa⟩
      have hxa : x = a := hxa
      subst hxa
      exact hne (Prod.mk.inj (inj_on_of_nodup_map (h.nodup _) he hentry rfl)).2
  · rw [hreleased.values, howner]
    exact hr.home c' e ((hmem c' e).mp he).1
  · exact hr.away c' e ((hmem c' e).mp he).1

/-! ### The methods -/

lemma destroy (h : W.Ownership temps)
    (hdestroy : W.destroy held w = .ok W') : W'.Coherent temps := by
  rcases h.destroy_cases hdestroy with ⟨hnone, rfl⟩ | ⟨c, a, ha, -, ⟨hmode, hreleased⟩ | ⟨hmode, hdeleted⟩⟩
  · refine ⟨fun c x w' => ?_, hr.home, hr.away⟩
    show (x, w') ∈ (W.controller c).referenceMap ↔ _
    rw [hr.entry_iff]
    by_cases heq : w' = w
    · subst heq
      simp [setWrapper, hnone]
    · simp [setWrapper, heq]
  · exact hr.released h hmode ha hreleased
  · exact hr.deleted hmode hdeleted

lemma removeInternal {pos : Position} {removed : Bool} (h : W.Ownership temps)
    (hc : c < W.controllers) (hremove : W.removeInternal c a pos = .ok (removed, W')) :
    W'.Coherent temps ∧ (W.Hosted c a → W'.Hosted c a) := by
  obtain ⟨v, hderef, hcases⟩ := removeInternal_eq_ok hremove
  rcases hcases with ⟨-, -, rfl⟩ | ⟨i, b, t, W₁, hchild, -, hreferences, rfl⟩
  · exact ⟨hr, id⟩
  · obtain ⟨hfind, -⟩ := deref_eq_ok hderef
    obtain ⟨ht, rfl, -⟩ := childAt_eq_some hchild
    obtain ⟨u, hu, hinner⟩ := Ownership.exists_innerBlocks hfind (slot_block ht)
    obtain ⟨gone, hdropped, -⟩ := removeReferences_dropped (h.isOwner_eq_false hu hinner c) hreferences
    have h₁ := h.dropped hc hdropped
    have hbuilt := built_eraseChild i v W₁.next
    rw [← hdropped.values] at hfind
    refine ⟨(hr.dropped hdropped).replace h₁ hfind hbuilt (by simp) (by simp), fun hhosted => ?_⟩
    exact (hhosted.dropped hdropped).replace _ h₁ hfind hbuilt.cell

end

lemma setInternal {pos : Position} {content : Value} {r : Addr × Nat}
    (hr : W.Coherent (content :: temps)) (h : W.Ownership (content :: temps))
    (hc : c < W.controllers) (hset : W.setInternal c a pos content = .ok (r, W')) :
    W'.Coherent temps ∧ (W.Hosted c a → W'.Hosted c a) := by
  obtain ⟨removed, W₁, v, v', next, i, t, dependencies, hremove, h₁, -, hfind, -, -, hbuilt, -, rfl, rfl,
    -⟩ := h.setInternal_parts hc hset
  obtain ⟨hr₁, hhosted₁⟩ := hr.removeInternal h hc hremove
  have hextra : ∀ b ∈ innerBlocks content, b ∈ blocksIn (content :: temps) := fun b hb =>
    mem_blocksIn.mpr ⟨content, mem_cons_self, mem_blocks_of_mem_innerBlocks hb⟩
  have hplaced : (W₁.replace a v' next).Coherent temps :=
    hr₁.replace h₁ hfind hbuilt hextra fun t ht => mem_cons_of_mem _ ht
  refine ⟨hplaced.setDependencies c dependencies, fun hhosted => ?_⟩
  obtain ⟨u, w, hu, hblock, howner⟩ := (hhosted₁ hhosted).replace next h₁ hfind hbuilt.cell
  refine ⟨u, w, hu, hblock, ?_⟩
  simp only [setController, update_self]
  exact howner

section

variable (hr : W.Coherent temps)
include hr

lemma copyOrDetachValue {n : Nat} (h : W.Ownership temps) (hn : n ∈ held) (hbare : W.Bare w)
    (hcopy : W.copyOrDetachValue held w n = .ok (v, W')) :
    W'.Coherent (v :: temps) ∧
      ∀ w' a, (W.wrapper w').attachment = some (n, a) → (W'.wrapper w').attachment = some (n, a) := by
  by_cases hmode : (W.wrapper w).mode = .ownerWillDelete
  · obtain ⟨c, hattached, hcn, hv, hdetached⟩ := copyOrDetachValue_owner hcopy hmode
      (fun c a ha => (h.isOwner_iff ha).mpr hmode) hn
    refine ⟨hr.detached h hcn hv hmode hattached (hbare.referenceMap hmode hattached) hdetached,
      fun w' a ha => ?_⟩
    have hne : w' ≠ w := by
      rintro rfl
      exact hcn (Prod.mk.inj (some.inj (hattached.symm.trans ha))).1
    rw [hdetached.wrapper, if_neg hne, ha]
  · obtain ⟨next, rfl, -, hcount, -⟩ := copyOrDetachValue_copy hcopy hmode
    exact ⟨hr.make h hcount, fun w' a ha => ha⟩

lemma getOrCreateRef {x : Addr} (h : W.Ownership temps)
    (hu : u ∈ W.values) (hx : x.block ∈ innerBlocks u)
    (howner : (W.controller c).owner = some (rootAddr u, w)) (type : ValueType) (parent : Addr)
    (readOnly : Bool) (element : Nat) :
    (W.getOrCreateRef c type x parent readOnly element).2.Coherent temps := by
  rcases getOrCreateRef_cases W c type x parent readOnly element with ⟨w, -, heq⟩ | ⟨-, href⟩
  · rw [heq]
    exact hr
  · exact hr.newReference h hu hx howner rfl rfl href

lemma setObjects (object : Nat → CefValueImpl) (objects : Nat) :
    { W with object := object, objects := objects }.Coherent temps :=
  ⟨hr.entry_iff, hr.home, hr.away⟩

lemma swapValue {o arg cell : Nat} {parent : Addr} {last : Bool} (h : W.Ownership temps)
    (hu : u ∈ W.values)
    (hb : b.block ∈ innerBlocks u) (howner : (W.controller c).owner = some (rootAddr u, w))
    (hc : c < W.controllers) (hswap : W.swapValue held o arg c b parent cell last = .ok W') :
    W'.Coherent temps := by
  obtain ⟨type, readOnly, object, hcases⟩ := swapValue_cases hswap
  have href := (hr.getOrCreateRef h hu hb howner type parent readOnly cell).setObjects object
    (W.getOrCreateRef c type b parent readOnly cell).2.objects
  rcases hcases with rfl | hdestroy
  · exact href
  · exact href.destroy ((h.getOrCreateRef hu hb hc type parent readOnly cell).setObjects _ _) hdestroy

end

lemma shrink {size : Nat} : ∀ {n : Nat} {W : World}, W.Coherent temps → W.Ownership temps →
    c < W.controllers → World.shrink c a size n W = .ok W' → W'.Coherent temps
  | 0, W, hr, _, _, hshrink => by
    cases hshrink
    exact hr
  | n + 1, W, hr, h, hc, hshrink => by
    obtain ⟨⟨r, W₁⟩, hremove, hshrink⟩ := Fallible.bind_eq_ok_iff.mp hshrink
    obtain ⟨h₁, hcontrollers⟩ := h.removeInternal hc hremove
    exact shrink (hr.removeInternal h hc hremove).1 h₁ (by rw [hcontrollers]; exact hc) hshrink

/-- **A call that transfers bare values keeps the registry coherent.** -/
theorem step {op : Op} (hr : W.Coherent []) (h : W.Ownership []) (hbare : W.TransfersBare op)
    (hstep : W.step op = .ok W') : W'.Coherent [] := by
  cases step_effect hstep with
  | objects op object objects => exact hr.setObjects object objects
  | owner op type hle hcount hformed => exact hr.newOwner h type hcount
  | reference op hw hv ht type readOnly object objects =>
    obtain ⟨u, w, hu, hx, howner⟩ := (hr.hosted h hw hv).inner h hv (slot_block ht)
    exact (hr.getOrCreateRef h hu hx howner _ _ _ _).setObjects object objects
  | assign s hop hw hset =>
    have hr₁ := hr.make h fun b => count_blocks_leaf b W.next s
    exact (hr₁.setInternal (h.makeLeaf s) (h.attached _ _ _ hw).2.2 hset).1
  | @transfer _ w arg c a pos content r W₁ W₂ _ hop harg hw hcopy hset hswap =>
    have hc := (h.attached _ _ _ hw).2.2
    obtain ⟨h₁, hcontrollers₁⟩ := h.copyOrDetachValue mem_cons_self hc hcopy
    obtain ⟨hr₁, hattached⟩ := hr.copyOrDetachValue h mem_cons_self (hbare arg harg) hcopy
    rw [← hcontrollers₁] at hc
    obtain ⟨h₂, hcontrollers₂, v', i, t, hv', ht, rfl⟩ := h₁.setInternal hc hset
    obtain ⟨hr₂, hhosted⟩ := hr₁.setInternal h₁ hc hset
    rw [← hcontrollers₂] at hc
    rcases hswap with rfl | ⟨o, last, hswap⟩
    · exact hr₂
    · obtain ⟨v, hv, -⟩ := find_of_setInternal hset
      obtain ⟨u, w', hu, hb, howner⟩ :=
        (hhosted (hr₁.hosted h₁ (hattached w a hw) hv)).inner h₂ hv' (slot_block ht)
      exact hr₂.swapValue h₂ hu hb howner hc hswap
  | remove hw hremove => exact (hr.removeInternal h (h.attached _ _ _ hw).2.2 hremove).1
  | @clear w c a v W₁ hw hremove hv =>
    obtain ⟨gone, hdropped, -⟩ := removeDependencies_dropped hremove
    have h₁ := h.dropped (h.attached _ _ _ hw).2.2 hdropped
    exact (hr.dropped hdropped).replace h₁ hv (built_cleared v W₁.next) (by simp) (by simp)
  | shrink hw hv htype hshrink => exact hr.shrink h (h.attached _ _ _ hw).2.2 hshrink
  | @grow w c size a v hw hv htype hsize =>
    exact hr.replace h hv (built_padTo size W.next v) (by simp) (by simp)
  | destroy hdestroy => exact hr.destroy h hdestroy

end Coherent

lemma coherent_of_along {ops : List Op} (halong : Transition.Along call TransfersBare World.new ops)
    (hrun : ops.foldlM call World.new = some W) : W.Ownership [] ∧ W.Coherent [] := by
  refine Transition.Along.invariant (I := fun W => W.Ownership [] ∧ W.Coherent [])
    (fun W op W' hW hbare hcall => ?_) ops World.new W ⟨Ownership.new, ?_⟩ halong hrun
  · have hstep := call_eq_some hcall
    exact ⟨hW.1.step hstep, hW.2.step hW.1 hbare hstep⟩
  · refine ⟨?_, ?_, ?_⟩ <;> simp [World.new, CefValueController.new, noWrapper]

end CefCore.Values.World
