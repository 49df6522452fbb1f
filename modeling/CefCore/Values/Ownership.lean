import CefCore.Values.Calls

/-!
# Who owns the memory

What holds of the memory, the owners and the keys of the reference maps in every state that calls
can reach, whatever they are.

## Main results

* `Ownership.step`: every call keeps this.

## Implementation notes

Nothing is said here about what the keys refer to, or about the wrappers that the reference maps
have for them.
-/

namespace CefCore.Values.World

open PlacedTree List Option CefValueController Nat Function

variable {W W' W₁ : World} {c : Nat} {a b : Addr} {temps temps' : List Value}

def Inner (W : World) (temps : List Value) (x : Addr) : Prop :=
  x.block < W.next ∧ ∀ t, t ∈ W.values ∨ t ∈ temps → x.block ≠ t.label.cell

/-- The memory is used once, every value has an owner and every owner a value, and no reference map
has the address of a whole value. -/
structure Ownership (W : World) (temps : List Value) : Prop where
  memory : ∀ b, (blocksIn W.values).count b + (blocksIn temps).count b ≤ fresh 0 W.next b
  key : ∀ c, ∀ e ∈ (W.controller c).referenceMap, W.Inner temps e.1
  inner : ∀ w c x, (W.wrapper w).mode = .reference → (W.wrapper w).attachment = some (c, x) →
    W.Inner temps x
  nodup : ∀ c, ((W.controller c).referenceMap.map (·.1)).Nodup
  holder : ∀ c, ∀ e ∈ (W.controller c).referenceMap, e.2 < W.wrappers ∧
    (W.wrapper e.2).mode = .reference
  owner_iff : ∀ c x w, (W.controller c).owner = some (x, w) ↔
    (W.wrapper w).mode = .ownerWillDelete ∧ (W.wrapper w).attachment = some (c, x)
  root : ∀ c x w, (W.controller c).owner = some (x, w) → ∃ t ∈ W.values, rootAddr t = x
  owned : ∀ t ∈ W.values, ∃ c w, (W.controller c).owner = some (rootAddr t, w)
  unique : ∀ c c' x w w', (W.controller c).owner = some (x, w) →
    (W.controller c').owner = some (x, w') → c = c'
  attached : ∀ w c x, (W.wrapper w).attachment = some (c, x) →
    (W.wrapper w).alive = true ∧ (W.wrapper w).mode ≠ .ownerNoDelete ∧ c < W.controllers
  wrapper_lt : ∀ w, (W.wrapper w).alive = true → w < W.wrappers
  controller_new : ∀ c, W.controllers ≤ c → W.controller c = CefValueController.new

/-! ### Memory -/

lemma fresh_zero {n b : Nat} : fresh 0 n b = if b < n then 1 else 0 := by
  unfold fresh
  simp

lemma fresh_le_one (n m b : Nat) : fresh n m b ≤ 1 := by
  unfold fresh
  split <;> omega

lemma fresh_eq_zero {n m b : Nat} (h : b < n) : fresh n m b = 0 := by
  unfold fresh
  exact if_neg (by omega)

lemma eq_of_count_le_one {b : Nat} : ∀ {vs : List Value}, (blocksIn vs).count b ≤ 1 →
    ∀ {t u : Value}, t ∈ vs → u ∈ vs → b ∈ blocks t → b ∈ blocks u → t = u
  | [], _, t, u, ht, _, _, _ => by simp at ht
  | v :: vs, h, t, u, ht, hu, hbt, hbu => by
    rw [blocksIn_cons, count_append] at h
    have hhead : ∀ w ∈ vs, b ∈ blocks w → b ∉ blocks v := by
      intro w hw hbw hbv
      have h₁ := count_pos_iff.mpr hbv
      have h₂ := count_pos_iff.mpr (mem_blocksIn.mpr ⟨w, hw, hbw⟩)
      omega
    rcases mem_cons.mp ht with rfl | ht'
    · rcases mem_cons.mp hu with rfl | hu'
      · rfl
      · exact (hhead u hu' hbu hbt).elim
    · rcases mem_cons.mp hu with rfl | hu'
      · exact (hhead t ht' hbt hbu).elim
      · exact eq_of_count_le_one (by omega) ht' hu' hbt hbu

lemma count_blocks_le {b : Nat} {t : Value} {vs : List Value} (h : t ∈ vs) :
    (blocks t).count b ≤ (blocksIn vs).count b := by
  obtain ⟨l₁, l₂, rfl⟩ := mem_iff_append.mp h
  rw [blocksIn_append, blocksIn_cons, count_append, count_append]
  omega

lemma cell_mem_blocks (t : Value) : t.label.cell ∈ blocks t := by
  rw [blocks_eq]
  exact mem_cons_self

lemma mem_blocks_of_mem_innerBlocks {b : Nat} {t : Value} (h : b ∈ innerBlocks t) :
    b ∈ blocks t := by
  rw [blocks_eq]
  exact mem_cons_of_mem _ h

namespace Ownership

section

variable (h : W.Ownership temps)
include h

lemma count_values_le_one (b : Nat) : (blocksIn W.values).count b ≤ 1 := by
  have h₁ := h.memory b
  have h₂ := fresh_le_one 0 W.next b
  omega

lemma lt_next {t : Value} (ht : t ∈ W.values ∨ t ∈ temps) {b : Nat}
    (hb : b ∈ blocks t) : b < W.next := by
  have hmem := h.memory b
  have hpos : 0 < (blocksIn W.values).count b + (blocksIn temps).count b := by
    rcases ht with ht | ht
    · have := count_pos_iff.mpr (mem_blocksIn.mpr ⟨t, ht, hb⟩)
      omega
    · have := count_pos_iff.mpr (mem_blocksIn.mpr ⟨t, ht, hb⟩)
      omega
  rw [fresh_zero] at hmem
  split at hmem
  · assumption
  · omega

lemma cell_notMem_innerBlocks {t u : Value}
    (ht : t ∈ W.values ∨ t ∈ temps) (hu : u ∈ W.values) : t.label.cell ∉ innerBlocks u := by
  intro hmem
  have hcell := cell_mem_blocks t
  have hcount := le_trans (h.memory t.label.cell) (fresh_le_one _ _ _)
  have hpos := count_pos_iff.mpr (mem_blocksIn.mpr ⟨u, hu, mem_blocks_of_mem_innerBlocks hmem⟩)
  rcases ht with ht | ht
  · obtain rfl := eq_of_count_le_one (h.count_values_le_one _) ht hu hcell
      (mem_blocks_of_mem_innerBlocks hmem)
    have h₁ := count_blocks t.label.cell t
    have h₂ := count_pos_iff.mpr hmem
    have h₃ := count_blocks_le (b := t.label.cell) ht
    have h₄ : fresh t.label.cell (t.label.cell + 1) t.label.cell = 1 := by
      unfold fresh
      exact if_pos (by omega)
    omega
  · have := count_pos_iff.mpr (mem_blocksIn.mpr ⟨t, ht, hcell⟩)
    omega

lemma isOwner_eq_false {u : Value} (hu : u ∈ W.values)
    (hb : b.block ∈ innerBlocks u) (c : Nat) : (W.controller c).isOwner b = false := by
  unfold CefValueController.isOwner
  cases howner : (W.controller c).owner with
  | none => rfl
  | some o =>
    obtain ⟨x, w⟩ := o
    obtain ⟨t, ht, rfl⟩ := h.root c x w howner
    have hne : rootAddr t ≠ b := by
      intro heq
      subst heq
      exact h.cell_notMem_innerBlocks (.inl ht) hu hb
    simpa using hne

lemma isOwner_iff {w : Nat} (ha : (W.wrapper w).attachment = some (c, a)) :
    (W.controller c).isOwner a = true ↔ (W.wrapper w).mode = .ownerWillDelete := by
  constructor
  · intro howner
    obtain ⟨w', hw'⟩ := isOwner_eq_true_iff.mp howner
    obtain ⟨t, ht, rfl⟩ := h.root c a w' hw'
    cases hmode : (W.wrapper w).mode with
    | ownerWillDelete => rfl
    | ownerNoDelete => exact ((h.attached w c _ ha).2.1 hmode).elim
    | reference => exact ((h.inner w c _ hmode ha).2 t (.inl ht) rfl).elim
  · intro hmode
    exact isOwner_eq_true_iff.mpr ⟨w, (h.owner_iff c a w).mpr ⟨hmode, ha⟩⟩

end

end Ownership

/-! ### What keeps the owners -/

def Loosened (x y : Wrapper) : Prop :=
  y = x ∨ (x.mode = .reference ∨ x.attachment = none) ∧ y.mode = x.mode ∧ y.attachment = none ∧
    (y.alive = true → x.alive = true)

/-- The state `W'` has the owners of `W` and no references that `W` does not have. -/
structure SameOwners (W W' : World) : Prop where
  owner : ∀ c, (W'.controller c).owner = (W.controller c).owner
  roots : W'.values.map rootAddr = W.values.map rootAddr
  wrapper : ∀ w, Loosened (W.wrapper w) (W'.wrapper w)
  references : ∀ c, (W'.controller c).referenceMap.Sublist (W.controller c).referenceMap
  wrappers : W'.wrappers = W.wrappers
  controllers : W'.controllers = W.controllers
  unused : ∀ c, W.controllers ≤ c → W'.controller c = W.controller c
  next : W.next ≤ W'.next

variable {x y : Wrapper}

lemma Loosened.mode (h : Loosened x y) : y.mode = x.mode := by
  rcases h with rfl | ⟨-, hmode, -⟩
  · rfl
  · exact hmode

lemma Loosened.attachment_owner (h : Loosened x y) (hx : x.mode = .ownerWillDelete) :
    y.attachment = x.attachment := by
  rcases h with rfl | ⟨hreference | hnone, -, hy, -⟩
  · rfl
  · rw [hreference] at hx
    cases hx
  · rw [hnone, hy]

lemma Loosened.attachment (h : Loosened x y) {o : Nat × Addr}
    (hy : y.attachment = some o) : x = y := by
  rcases h with rfl | ⟨-, -, hnone, -⟩
  · rfl
  · rw [hnone] at hy
    cases hy

namespace Ownership

lemma of_sameOwners (h : W.Ownership temps) (hsame : SameOwners W W')
    (hmemory : ∀ b, (blocksIn W'.values).count b + (blocksIn temps').count b ≤ fresh 0 W'.next b)
    (hcell : ∀ t ∈ temps', t ∈ temps ∨ W.next ≤ t.label.cell) : W'.Ownership temps' := by
  have hinner : ∀ x, W.Inner temps x → W'.Inner temps' x := by
    rintro x ⟨hlt, hne⟩
    refine ⟨lt_of_lt_of_le hlt hsame.next, fun t ht => ?_⟩
    rcases ht with ht | ht
    · have hroot : rootAddr t ∈ W.values.map rootAddr := by
        rw [← hsame.roots]
        exact mem_map_of_mem ht
      obtain ⟨u, hu, heq⟩ := mem_map.mp hroot
      have : u.label.cell = t.label.cell := congrArg Addr.block heq
      rw [← this]
      exact hne u (.inl hu)
    · rcases hcell t ht with ht | hle
      · exact hne t (.inr ht)
      · omega
  refine {
    memory := hmemory
    key := fun c e he => ?key
    inner := fun w c x hmode hx => ?inner
    nodup := fun c => ?nodup
    holder := fun c e he => ?holder
    owner_iff := fun c x w => ?owner_iff
    root := fun c x w hx => ?root
    owned := fun t ht => ?owned
    unique := fun c c' x w w' hx hx' => ?unique
    attached := fun w c x hx => ?attached
    wrapper_lt := fun w hw => ?wrapper_lt
    controller_new := fun c hc => ?controller_new }
  case key =>
    exact hinner e.1 (h.key c e ((hsame.references c).mem he))
  case inner =>
    have heq := (hsame.wrapper w).attachment hx
    rw [← heq] at hmode hx
    exact hinner x (h.inner w c x hmode hx)
  case nodup =>
    exact (h.nodup c).sublist ((hsame.references c).map _)
  case holder =>
    obtain ⟨hlt, hmode⟩ := h.holder c e ((hsame.references c).mem he)
    rw [hsame.wrappers, (hsame.wrapper e.2).mode]
    exact ⟨hlt, hmode⟩
  case owner_iff =>
    rw [hsame.owner c, h.owner_iff c x w, (hsame.wrapper w).mode]
    refine and_congr_right fun hmode => ?_
    rw [(hsame.wrapper w).attachment_owner hmode]
  case root =>
    rw [hsame.owner c] at hx
    obtain ⟨t, ht, rfl⟩ := h.root c x w hx
    have hroot : rootAddr t ∈ W'.values.map rootAddr := by
      rw [hsame.roots]
      exact mem_map_of_mem ht
    exact mem_map.mp hroot
  case owned =>
    have hroot : rootAddr t ∈ W.values.map rootAddr := by
      rw [← hsame.roots]
      exact mem_map_of_mem ht
    obtain ⟨u, hu, heq⟩ := mem_map.mp hroot
    obtain ⟨c, w, howner⟩ := h.owned u hu
    refine ⟨c, w, ?_⟩
    rw [hsame.owner c, howner, heq]
  case unique =>
    rw [hsame.owner] at hx hx'
    exact h.unique c c' x w w' hx hx'
  case attached =>
    have heq := (hsame.wrapper w).attachment hx
    rw [← heq] at hx ⊢
    rw [hsame.controllers]
    exact h.attached w c x hx
  case wrapper_lt =>
    rw [hsame.wrappers]
    refine h.wrapper_lt w ?_
    rcases hsame.wrapper w with heq | ⟨-, -, -, halive⟩
    · rw [← heq]
      exact hw
    · exact halive hw
  case controller_new =>
    rw [hsame.controllers] at hc
    rw [hsame.unused c hc]
    exact h.controller_new c hc

lemma dropped {gone : Addr → Bool} (h : W.Ownership temps) (hc : c < W.controllers)
    (hdropped : Dropped W W' c gone) : W'.Ownership temps := by
  have hsame : SameOwners W W' := by
    refine ⟨fun c' => ?_, by rw [hdropped.values], fun w => ?_, fun c' => ?_, hdropped.wrappers,
      hdropped.controllers, fun c' hc' => hdropped.others c' (by omega), le_of_eq hdropped.next.symm⟩
    · by_cases heq : c' = c
      · rw [heq, hdropped.owner]
      · rw [hdropped.others c' heq]
    · rw [hdropped.wrapper w]
      split
      · rename_i hmem
        obtain ⟨e, he, rfl⟩ := mem_map.mp hmem
        have hmode := (h.holder c e (mem_of_mem_filter he)).2
        exact .inr ⟨.inl hmode, rfl, rfl, id⟩
      · exact .inl rfl
    · by_cases heq : c' = c
      · rw [heq, hdropped.references]
        exact filter_sublist
      · rw [hdropped.others c' heq]
  refine h.of_sameOwners hsame (fun b => ?_) fun t ht => .inl ht
  rw [hdropped.values, hdropped.next]
  exact h.memory b

variable {next : Nat} {v : Value}

section

variable (h : W.Ownership temps)
include h

lemma replace {v' : Value} {extra : List Nat}
    (hfind : findIn slot a forest 0 W.values = some v) (hbuilt : Built v extra W.next v' next)
    (hextra : ∀ b, extra.count b + (blocksIn temps').count b ≤ (blocksIn temps).count b)
    (hsub : ∀ t ∈ temps', t ∈ temps) : (W.replace a v' next).Ownership temps' := by
  obtain ⟨l₁, t, l₂, hvalues, ht, hmodify⟩ := forest_split hfind
  obtain ⟨hcell, -, hcount⟩ := modify_spec ht hbuilt.cell
  have hvalues' : (W.replace a v' next).values =
      l₁ ++ t.modify slot a (fun _ => v') (rootAddr t) :: l₂ := hmodify _
  have hsame : SameOwners W (W.replace a v' next) := by
    refine ⟨fun _ => rfl, ?_, fun _ => .inl rfl, fun _ => List.Sublist.refl _, rfl, rfl,
      fun _ _ => rfl, hbuilt.le⟩
    rw [hvalues', hvalues, map_append, map_append, map_cons, map_cons, rootAddr, hcell, ← rootAddr]
  refine h.of_sameOwners hsame (fun b => ?_) fun t ht => .inl (hsub t ht)
  have h₁ := h.memory b
  have h₂ := hbuilt.count_le b
  have h₃ := hextra b
  have h₄ := hcount b
  have h₅ := fresh_add (n := 0) (b := b) (zero_le _) hbuilt.le
  have hnext : (W.replace a v' next).next = next := rfl
  rw [hvalues', hnext]
  rw [hvalues] at h₁
  simp only [blocksIn_append, blocksIn_cons, count_append] at h₁ ⊢
  omega

lemma setDependencies (hc : c < W.controllers) (dependencies : List (Addr × Addr)) :
    (W.setController c { W.controller c with dependencyMap := dependencies }).Ownership temps := by
  refine h.of_sameOwners ⟨fun c' => ?_, rfl, fun _ => .inl rfl, fun c' => ?_, rfl, rfl,
    fun c' hc' => update_of_ne (by omega) _ _, le_refl _⟩ h.memory
    fun t ht => .inl ht
  · by_cases heq : c' = c
    · subst heq
      simp [setController]
    · simp [setController, heq]
  · by_cases heq : c' = c
    · subst heq
      simp [setController]
    · simp [setController, heq]

lemma make (hle : W.next ≤ next) (hcount : ∀ b, (blocks v).count b ≤ fresh W.next next b) :
    { W with next := next }.Ownership (v :: temps) := by
  refine h.of_sameOwners ⟨fun _ => rfl, rfl, fun _ => .inl rfl, fun _ => List.Sublist.refl _,
    rfl, rfl, fun _ _ => rfl, hle⟩ (fun b => ?_) fun t ht => ?_
  · have h₁ := h.memory b
    have h₂ := hcount b
    have h₃ := fresh_add (n := 0) (b := b) (zero_le _) hle
    show _ ≤ fresh 0 next b
    rw [blocksIn_cons, count_append]
    show (blocksIn W.values).count b + _ ≤ _
    omega
  · rcases mem_cons.mp ht with rfl | ht
    · right
      have h₁ := hcount t.label.cell
      have h₂ := count_pos_iff.mpr (cell_mem_blocks t)
      by_contra hlt
      rw [fresh_eq_zero (by omega)] at h₁
      omega
    · exact .inl ht

lemma letGo (hsub : ∀ t ∈ temps', t ∈ temps)
    (hcount : ∀ b, (blocksIn temps').count b ≤ (blocksIn temps).count b) : W.Ownership temps' := by
  refine h.of_sameOwners ⟨fun _ => rfl, rfl, fun _ => .inl rfl, fun _ => List.Sublist.refl _,
    rfl, rfl, fun _ _ => rfl, le_refl _⟩ (fun b => ?_) fun t ht => .inl (hsub t ht)
  have h₁ := h.memory b
  have h₂ := hcount b
  omega

/-! ### New wrappers -/

lemma attachment_eq_none {w : Nat} (hw : W.wrappers ≤ w) : (W.wrapper w).attachment = none := by
  cases hattached : (W.wrapper w).attachment with
  | none => rfl
  | some o => exact absurd (h.wrapper_lt w (h.attached w o.1 o.2 hattached).1) (not_lt.mpr hw)

lemma newOwner (type : ValueType)
    (hle : W.next ≤ next) (hcount : ∀ b, (blocks v).count b ≤ fresh W.next next b) :
    (W.newOwner type v next).Ownership temps := by
  have hmake := h.make hle hcount
  have hnone := h.attachment_eq_none (le_refl _)
  have hcontroller : ∀ c, (W.newOwner type v next).controller c = if c = W.controllers then
      ⟨some (rootAddr v, W.wrappers), [], []⟩ else W.controller c := by
    intro c
    simp only [World.newOwner, update_apply]
    rfl
  have hwrapper : ∀ w, (W.newOwner type v next).wrapper w = if w = W.wrappers then
      ⟨type, .ownerWillDelete, false, some (W.controllers, rootAddr v), true, v.label.cell⟩
      else W.wrapper w := by
    intro w
    simp [World.newOwner, update_apply]
  have hunowned : ∀ c w, (W.controller c).owner ≠ some (rootAddr v, w) := by
    intro c w howner
    obtain ⟨t, ht, heq⟩ := h.root c _ w howner
    have hcell : t.label.cell = v.label.cell := congrArg Addr.block heq
    have hlt := h.lt_next (.inl ht) (cell_mem_blocks t)
    have h₁ := hcount v.label.cell
    have h₂ := count_pos_iff.mpr (cell_mem_blocks v)
    rw [fresh_eq_zero (by omega)] at h₁
    omega
  have hinner : ∀ x, { W with next := next }.Inner (v :: temps) x →
      (W.newOwner type v next).Inner temps x := by
    rintro x ⟨hlt, hne⟩
    refine ⟨hlt, fun t ht => ?_⟩
    rcases ht with ht | ht
    · rcases mem_cons.mp ht with rfl | ht
      · exact hne t (.inr mem_cons_self)
      · exact hne t (.inl ht)
    · exact hne t (.inr (mem_cons_of_mem _ ht))
  refine {
    memory := fun b => ?memory
    key := fun c e he => ?key
    inner := fun w c x hmode hx => ?inner
    nodup := fun c => ?nodup
    holder := fun c e he => ?holder
    owner_iff := fun c x w => ?owner_iff
    root := fun c x w hx => ?root
    owned := fun t ht => ?owned
    unique := fun c c' x w w' hx hx' => ?unique
    attached := fun w c x hx => ?attached
    wrapper_lt := fun w hw => ?wrapper_lt
    controller_new := fun c hc => ?controller_new }
  case memory =>
    have h₁ : (blocksIn W.values).count b + (blocksIn (v :: temps)).count b ≤ fresh 0 next b :=
      hmake.memory b
    show (blocksIn (v :: W.values)).count b + _ ≤ fresh 0 next b
    rw [blocksIn_cons, count_append] at h₁ ⊢
    omega
  case key =>
    rw [hcontroller] at he
    split at he
    · simp at he
    · exact hinner e.1 (hmake.key c e he)
  case inner =>
    rw [hwrapper] at hmode hx
    split at hx
    · rename_i heq
      rw [if_pos heq] at hmode
      cases hmode
    · rename_i hne
      rw [if_neg hne] at hmode
      exact hinner x (hmake.inner w c x hmode hx)
  case nodup =>
    rw [hcontroller]
    split
    · exact nodup_nil
    · exact h.nodup c
  case holder =>
    rw [hcontroller] at he
    split at he
    · simp at he
    · obtain ⟨hlt, hmode⟩ := h.holder c e he
      rw [hwrapper, if_neg (Nat.ne_of_lt hlt)]
      exact ⟨lt_succ_of_lt hlt, hmode⟩
  case owner_iff =>
    rw [hcontroller, hwrapper]
    have hold := h.owner_iff c x w
    have hattached := h.attached w c x
    split <;> split <;> grind
  case root =>
    rw [hcontroller] at hx
    split at hx
    · cases hx
      exact ⟨v, mem_cons_self, rfl⟩
    · obtain ⟨t, ht, heq⟩ := h.root c x w hx
      exact ⟨t, mem_cons_of_mem _ ht, heq⟩
  case owned =>
    rcases mem_cons.mp ht with rfl | ht
    · exact ⟨W.controllers, W.wrappers, by rw [hcontroller, if_pos rfl]⟩
    · obtain ⟨c, w, howner⟩ := h.owned t ht
      refine ⟨c, w, ?_⟩
      have hne : c ≠ W.controllers := by
        rintro rfl
        rw [h.controller_new _ (le_refl _)] at howner
        cases howner
      rw [hcontroller, if_neg hne, howner]
  case unique =>
    rw [hcontroller] at hx hx'
    have hold := h.unique c c' x w w'
    split at hx <;> split at hx' <;> grind
  case attached =>
    rw [hwrapper] at hx ⊢
    show _ ∧ _ ∧ c < W.controllers + 1
    have hold := h.attached w c x
    split at hx <;> grind
  case wrapper_lt =>
    rw [hwrapper] at hw
    show w < W.wrappers + 1
    have hold := h.wrapper_lt w
    split at hw <;> grind
  case controller_new =>
    have hc : W.controllers + 1 ≤ c := hc
    rw [hcontroller, if_neg (by omega)]
    exact h.controller_new c (by omega)

lemma newReference {x parent : Addr} {new : Wrapper} {u : Value}
    (hu : u ∈ W.values) (hx : x.block ∈ innerBlocks u) (hc : c < W.controllers)
    (hmode : new.mode = .reference) (hnew : new.attachment = some (c, x))
    (halive : new.alive = true) (href : NewReference W W' c x parent new) : W'.Ownership temps := by
  have howner : ∀ c', (W'.controller c').owner = (W.controller c').owner := by
    intro c'
    by_cases heq : c' = c
    · rw [heq, href.owner]
    · rw [href.others c' heq]
  have hreferences : ∀ c', ∀ e ∈ (W'.controller c').referenceMap,
      e = (x, W.wrappers) ∨ e ∈ (W.controller c').referenceMap := by
    intro c' e he
    by_cases heq : c' = c
    · subst heq
      rw [href.references] at he
      exact mem_cons.mp he
    · rw [href.others c' heq] at he
      exact .inr he
  have hnone := h.attachment_eq_none (le_refl _)
  have hinner : ∀ y, W.Inner temps y → W'.Inner temps y := by
    unfold Inner
    rw [href.values, href.next]
    exact fun _ => id
  have hself : W.Inner temps x := by
    refine ⟨h.lt_next (.inl hu) (mem_blocks_of_mem_innerBlocks hx), fun t ht heq => ?_⟩
    exact h.cell_notMem_innerBlocks ht hu (heq ▸ hx)
  refine {
    memory := fun b => ?memory
    key := fun c' e he => ?key
    inner := fun w c' y hmode' hy => ?inner
    nodup := fun c' => ?nodup
    holder := fun c' e he => ?holder
    owner_iff := fun c' y w => ?owner_iff
    root := fun c' y w hy => ?root
    owned := fun t ht => ?owned
    unique := fun c₁ c₂ y w w' hy hy' => ?unique
    attached := fun w c' y hy => ?attached
    wrapper_lt := fun w hw => ?wrapper_lt
    controller_new := fun c' hc' => ?controller_new }
  case memory =>
    rw [href.values, href.next]
    exact h.memory b
  case key =>
    rcases hreferences c' e he with rfl | he
    · exact hinner _ hself
    · exact hinner _ (h.key c' e he)
  case inner =>
    rw [href.wrapper] at hmode' hy
    split at hy
    · obtain ⟨-, rfl⟩ := Prod.mk.inj (some.inj (hnew.symm.trans hy))
      exact hinner _ hself
    · rename_i hne
      rw [if_neg hne] at hmode'
      exact hinner y (h.inner w c' y hmode' hy)
  case nodup =>
    by_cases heq : c' = c
    · rw [heq, href.references, map_cons, nodup_cons]
      refine ⟨fun hmem => ?_, h.nodup c⟩
      obtain ⟨e, he, heq⟩ := mem_map.mp hmem
      exact href.key e he heq
    · rw [href.others c' heq]
      exact h.nodup c'
  case holder =>
    rw [href.wrappers, href.wrapper]
    rcases hreferences c' e he with rfl | he
    · exact ⟨lt_succ_self _, by rw [if_pos rfl, hmode]⟩
    · obtain ⟨hlt, hmode⟩ := h.holder c' e he
      rw [if_neg (Nat.ne_of_lt hlt)]
      exact ⟨lt_succ_of_lt hlt, hmode⟩
  case owner_iff =>
    rw [howner, href.wrapper, h.owner_iff]
    split
    · rename_i heq
      rw [heq, hnone, hmode]
      simp
    · rfl
  case root =>
    rw [howner] at hy
    rw [href.values]
    exact h.root c' y w hy
  case owned =>
    rw [href.values] at ht
    obtain ⟨c', w, hw⟩ := h.owned t ht
    exact ⟨c', w, by rw [howner, hw]⟩
  case unique =>
    rw [howner] at hy hy'
    exact h.unique c₁ c₂ y w w' hy hy'
  case attached =>
    rw [href.wrapper] at hy ⊢
    rw [href.controllers]
    split at hy
    · rename_i heq
      obtain ⟨rfl, -⟩ := Prod.mk.inj (some.inj (hnew.symm.trans hy))
      rw [if_pos heq, hmode]
      exact ⟨halive, by simp, hc⟩
    · rename_i hne
      rw [if_neg hne]
      exact h.attached w c' y hy
  case wrapper_lt =>
    rw [href.wrappers]
    rw [href.wrapper] at hw
    split at hw
    · omega
    · exact lt_succ_of_lt (h.wrapper_lt w hw)
  case controller_new =>
    rw [href.controllers] at hc'
    rw [href.others c' (by omega)]
    exact h.controller_new c' hc'

end

end Ownership

/-! ### An owner that goes -/

lemma count_filter_add_le {b : Nat} {v : Value} {p : Value → Bool} : ∀ {vs : List Value}, v ∈ vs →
    p v = false → (blocksIn (vs.filter p)).count b + (blocks v).count b ≤ (blocksIn vs).count b
  | [], hv, _ => by simp at hv
  | u :: vs, hv, hp => by
    have hsub : (blocksIn (vs.filter p)).count b ≤ (blocksIn vs).count b :=
      (filter_sublist.flatMap _).count_le b
    rcases mem_cons.mp hv with rfl | hv
    · rw [filter_cons_of_neg (by simp [hp]), blocksIn_cons, count_append]
      omega
    · have ih := count_filter_add_le (b := b) hv hp
      rw [blocksIn_cons, count_append, filter_cons]
      split
      · rw [blocksIn_cons, count_append]
        omega
      · omega

/-- The owner `w` of the value `v` has given it away, or is deleting it. -/
structure Disowned (W W' : World) (w c : Nat) (v : Value) : Prop where
  values : W'.values = W.values.filter fun u => rootAddr u ≠ rootAddr v
  next : W'.next = W.next
  controllers : W'.controllers = W.controllers
  wrappers : W'.wrappers = W.wrappers
  owner : ∀ c', (W'.controller c').owner = if c' = c then none else (W.controller c').owner
  references : ∀ c', ∀ e ∈ (W'.controller c').referenceMap,
    ∃ c'', e ∈ (W.controller c'').referenceMap
  nodup : ∀ c', ((W'.controller c').referenceMap.map (·.1)).Nodup
  wrapper : ∀ w', w' ≠ w → Loosened (W.wrapper w') (W'.wrapper w')
  self : (W'.wrapper w).mode = (W.wrapper w).mode ∧ (W'.wrapper w).attachment = none ∧
    ((W'.wrapper w).alive = true → (W.wrapper w).alive = true)
  unused : ∀ c', W.controllers ≤ c' → W'.controller c' = W.controller c'

namespace Ownership

variable {content v : Value} {held : List Nat} {pos : Position} {w : Nat}

section

variable (h : W.Ownership temps)
include h

lemma disowned (hv : v ∈ W.values)
    (howner : (W.controller c).owner = some (rootAddr v, w)) (hdisowned : Disowned W W' w c v) :
    W'.Ownership (v :: temps) := by
  have hmem : ∀ {t : Value}, t ∈ W'.values ↔ t ∈ W.values ∧ rootAddr t ≠ rootAddr v := by
    intro t
    rw [hdisowned.values, mem_filter]
    simp
  have hmode : ∀ w', (W'.wrapper w').mode = (W.wrapper w').mode := by
    intro w'
    by_cases heq : w' = w
    · rw [heq, hdisowned.self.1]
    · exact (hdisowned.wrapper w' heq).mode
  have hattached : ∀ w' o, (W'.wrapper w').attachment = some o → w' ≠ w ∧ W.wrapper w' = W'.wrapper w' := by
    intro w' o ho
    have hne : w' ≠ w := by
      rintro rfl
      rw [hdisowned.self.2.1] at ho
      cases ho
    exact ⟨hne, (hdisowned.wrapper w' hne).attachment ho⟩
  have hinner : ∀ x, W.Inner temps x → W'.Inner (v :: temps) x := by
    rintro x ⟨hlt, hne⟩
    refine ⟨hdisowned.next.symm ▸ hlt, fun t ht => ?_⟩
    rcases ht with ht | ht
    · exact hne t (.inl (hmem.mp ht).1)
    · rcases mem_cons.mp ht with rfl | ht
      · exact hne t (.inl hv)
      · exact hne t (.inr ht)
  refine {
    memory := fun b => ?memory
    key := fun c' e he => ?key
    inner := fun w' c' x hreference hx => ?inner
    nodup := hdisowned.nodup
    holder := fun c' e he => ?holder
    owner_iff := fun c' x w' => ?owner_iff
    root := fun c' x w' hx => ?root
    owned := fun t ht => ?owned
    unique := fun c₁ c₂ x w₁ w₂ hx hx' => ?unique
    attached := fun w' c' x hx => ?attached
    wrapper_lt := fun w' hw' => ?wrapper_lt
    controller_new := fun c' hc' => ?controller_new }
  case memory =>
    have h₁ := h.memory b
    have h₂ := count_filter_add_le (b := b) (p := fun u => rootAddr u ≠ rootAddr v) hv (by simp)
    rw [hdisowned.values, hdisowned.next, blocksIn_cons, count_append]
    omega
  case key =>
    obtain ⟨c'', he⟩ := hdisowned.references c' e he
    exact hinner e.1 (h.key c'' e he)
  case inner =>
    obtain ⟨-, heq⟩ := hattached w' _ hx
    rw [← heq] at hreference hx
    exact hinner x (h.inner w' c' x hreference hx)
  case holder =>
    obtain ⟨c'', he⟩ := hdisowned.references c' e he
    rw [hdisowned.wrappers, hmode]
    exact h.holder c'' e he
  case owner_iff =>
    rw [hdisowned.owner, hmode]
    have hold := h.owner_iff c' x w'
    have hself := h.owner_iff c (rootAddr v) w
    have hattached' := hattached w' (c', x)
    have hwrapper := hdisowned.wrapper w'
    constructor
    · intro hx
      split at hx
      · cases hx
      · rename_i hne
        obtain ⟨hmode', hx'⟩ := hold.mp hx
        refine ⟨hmode', ?_⟩
        have hw' : w' ≠ w := by
          rintro rfl
          have := hx'.symm.trans (hself.mp howner).2
          simp only [some.injEq, Prod.mk.injEq] at this
          exact hne this.1
        rw [(hwrapper hw').attachment_owner hmode', hx']
    · rintro ⟨hmode', hx⟩
      obtain ⟨hw', heq⟩ := hattached' hx
      rw [← heq] at hx
      have hx' := hold.mpr ⟨hmode', hx⟩
      split
      · rename_i hc'
        rw [hc', howner, some.injEq, Prod.mk.injEq] at hx'
        exact (hw' hx'.2.symm).elim
      · exact hx'
  case root =>
    rw [hdisowned.owner] at hx
    split at hx
    · cases hx
    · rename_i hne
      obtain ⟨t, ht, rfl⟩ := h.root c' x w' hx
      refine ⟨t, hmem.mpr ⟨ht, fun heq => ?_⟩, rfl⟩
      rw [heq] at hx
      exact hne (h.unique c' c _ _ _ hx howner)
  case owned =>
    obtain ⟨ht, hne⟩ := hmem.mp ht
    obtain ⟨c', w', hw'⟩ := h.owned t ht
    refine ⟨c', w', ?_⟩
    rw [hdisowned.owner, if_neg, hw']
    rintro rfl
    rw [howner, some.injEq, Prod.mk.injEq] at hw'
    exact hne hw'.1.symm
  case unique =>
    rw [hdisowned.owner] at hx hx'
    have hold := h.unique c₁ c₂ x w₁ w₂
    split at hx <;> split at hx' <;> grind
  case attached =>
    obtain ⟨-, heq⟩ := hattached w' _ hx
    rw [← heq] at hx ⊢
    rw [hdisowned.controllers]
    exact h.attached w' c' x hx
  case wrapper_lt =>
    rw [hdisowned.wrappers]
    by_cases heq : w' = w
    · subst heq
      exact h.wrapper_lt w' (hdisowned.self.2.2 hw')
    · rcases hdisowned.wrapper w' heq with heq' | ⟨-, -, -, halive⟩
      · rw [heq'] at hw'
        exact h.wrapper_lt w' hw'
      · exact h.wrapper_lt w' (halive hw')
  case controller_new =>
    rw [hdisowned.controllers] at hc'
    rw [hdisowned.unused c' hc']
    exact h.controller_new c' hc'

lemma detached {n : Nat} (hn : n < W.controllers)
    (hv : v ∈ W.values) (hmode : (W.wrapper w).mode = .ownerWillDelete)
    (hattached : (W.wrapper w).attachment = some (c, rootAddr v))
    (hdetached : Detached W W' w c n v) : W'.Ownership (v :: temps) := by
  have hc := (h.attached w c _ hattached).2.2
  refine h.disowned hv ((h.owner_iff c _ w).mpr ⟨hmode, hattached⟩) ⟨hdetached.values, hdetached.next,
    hdetached.controllers, hdetached.wrappers, fun c' => ?_, fun c' e he => ?_, fun c' => ?_,
    fun w' hw' => ?_, ?_, fun c' hc' => hdetached.others c' (by omega) (by omega)⟩
  · split
    · rename_i heq
      rw [heq, hdetached.left]
      rfl
    · rename_i hne
      by_cases heq : c' = n
      · rw [heq, hdetached.taken]
        rfl
      · rw [hdetached.others c' heq hne]
  · by_cases hc' : c' = c
    · rw [hc', hdetached.left] at he
      simp [CefValueController.new] at he
    · by_cases heq : c' = n
      · rw [heq, hdetached.taken] at he
        rcases mem_takeFrom he with he | he
        · exact ⟨n, he⟩
        · exact ⟨c, he⟩
      · rw [hdetached.others c' heq hc'] at he
        exact ⟨c', he⟩
  · by_cases hc' : c' = c
    · rw [hc', hdetached.left]
      exact nodup_nil
    · by_cases heq : c' = n
      · rw [heq, hdetached.taken]
        exact takeFrom_nodup (h.nodup n)
      · rw [hdetached.others c' heq hc']
        exact h.nodup c'
  · rw [hdetached.wrapper, if_neg hw']
    exact .inl rfl
  · rw [hdetached.wrapper, if_pos rfl]
    exact ⟨rfl, rfl, id⟩

lemma deleted {a : Addr} (hmode : (W.wrapper w).mode = .ownerWillDelete)
    (hattached : (W.wrapper w).attachment = some (c, a)) (hdeleted : Deleted W W' w c a) :
    W'.Ownership temps := by
  have howner := (h.owner_iff c a w).mpr ⟨hmode, hattached⟩
  obtain ⟨v, hv, rfl⟩ := h.root c a w howner
  have hc := (h.attached w c _ hattached).2.2
  have hgone : W'.Ownership (v :: temps) := by
    refine h.disowned hv howner ⟨hdeleted.values, hdeleted.next, hdeleted.controllers,
      hdeleted.wrappers, fun c' => ?_, fun c' e he => ?_, fun c' => ?_, fun w' hw' => ?_, ?_,
      fun c' hc' => hdeleted.others c' (by omega)⟩
    · split
      · rename_i heq
        rw [heq, hdeleted.left]
        rfl
      · rename_i hne
        rw [hdeleted.others c' hne]
    · by_cases hc' : c' = c
      · rw [hc', hdeleted.left] at he
        simp [CefValueController.new] at he
      · rw [hdeleted.others c' hc'] at he
        exact ⟨c', he⟩
    · by_cases hc' : c' = c
      · rw [hc', hdeleted.left]
        exact nodup_nil
      · rw [hdeleted.others c' hc']
        exact h.nodup c'
    · rw [hdeleted.wrapper w' hw']
      split
      · rename_i hmem
        obtain ⟨e, he, rfl⟩ := mem_map.mp hmem
        have hreference := (h.holder c e he).2
        exact .inr ⟨.inl hreference, rfl, rfl, id⟩
      · exact .inl rfl
    · obtain ⟨hnone, halive, hmode'⟩ := hdeleted.deleted
      exact ⟨hmode', hnone, by simp [halive]⟩
  refine hgone.letGo (fun t ht => mem_cons_of_mem _ ht) fun b => ?_
  rw [blocksIn_cons, count_append]
  omega

lemma released (hc : c < W.controllers)
    (hmode : (W.wrapper w).mode = .reference) (hreleased : Released W W' w c a) :
    W'.Ownership temps := by
  refine h.of_sameOwners ⟨fun c' => ?_, by rw [hreleased.values], fun w' => ?_, fun c' => ?_,
    hreleased.wrappers, hreleased.controllers, fun c' hc' => hreleased.others c' (by omega),
    le_of_eq hreleased.next.symm⟩ (fun b => ?_) fun t ht => .inl ht
  · by_cases heq : c' = c
    · rw [heq, hreleased.owner]
    · rw [hreleased.others c' heq]
  · rw [hreleased.wrapper]
    split
    · rename_i heq
      rw [heq]
      exact .inr ⟨.inl hmode, rfl, rfl, by simp⟩
    · exact .inl rfl
  · by_cases heq : c' = c
    · rw [heq, hreleased.references]
      exact filter_sublist
    · rw [hreleased.others c' heq]
  · rw [hreleased.values, hreleased.next]
    exact h.memory b

lemma destroy_cases (hdestroy : W.destroy held w = .ok W') :
    (W.wrapper w).attachment = none ∧ W' = W.setWrapper w { W.wrapper w with alive := false } ∨
    ∃ c a, (W.wrapper w).attachment = some (c, a) ∧ c ∉ held ∧
      ((W.wrapper w).mode = .reference ∧ Released W W' w c a ∨
        (W.wrapper w).mode = .ownerWillDelete ∧ Deleted W W' w c a) :=
  World.destroy_cases hdestroy (fun o ho => (h.attached w o.1 o.2 ho).2.1)
    fun _ _ ha => h.isOwner_iff ha

lemma destroy (hdestroy : W.destroy held w = .ok W') : W'.Ownership temps := by
  rcases h.destroy_cases hdestroy with ⟨hnone, rfl⟩ | ⟨c, a, ha, -, ⟨hmode, hreleased⟩ | ⟨hmode, hdeleted⟩⟩
  · refine h.of_sameOwners ⟨fun _ => rfl, rfl, fun w' => ?_, fun _ => List.Sublist.refl _, rfl, rfl,
      fun _ _ => rfl, le_refl _⟩ h.memory fun t ht => .inl ht
    by_cases heq : w' = w
    · subst heq
      simp only [setWrapper, update_self]
      exact .inr ⟨.inr hnone, rfl, hnone, by simp⟩
    · simp only [setWrapper, update_of_ne heq]
      exact .inl rfl
  · exact h.released (h.attached w c a ha).2.2 hmode hreleased
  · exact h.deleted hmode ha hdeleted

/-! ### The methods -/

end

lemma exists_innerBlocks {next : Nat}
    (hfind : findIn slot a forest 0 W.values = some v) (hnext : next ∈ innerBlocks v) :
    ∃ u ∈ W.values, next ∈ innerBlocks u := by
  obtain ⟨l₁, u, l₂, hvalues, hu, -⟩ := forest_split hfind
  refine ⟨u, by rw [hvalues]; simp, count_pos_iff.mp ?_⟩
  exact lt_of_lt_of_le (count_pos_iff.mpr hnext) (count_innerBlocks_find hu next)

lemma removeInternal {removed : Bool} (h : W.Ownership temps)
    (hc : c < W.controllers) (hremove : W.removeInternal c a pos = .ok (removed, W')) :
    W'.Ownership temps ∧ W'.controllers = W.controllers := by
  obtain ⟨v, hderef, hcases⟩ := removeInternal_eq_ok hremove
  rcases hcases with ⟨-, -, rfl⟩ | ⟨i, b, t, W₁, hchild, -, hreferences, rfl⟩
  · exact ⟨h, rfl⟩
  · obtain ⟨hfind, -⟩ := deref_eq_ok hderef
    obtain ⟨ht, rfl, -⟩ := childAt_eq_some hchild
    obtain ⟨u, hu, hinner⟩ := exists_innerBlocks hfind (slot_block ht)
    obtain ⟨gone, hdropped, -⟩ := removeReferences_dropped (h.isOwner_eq_false hu hinner c) hreferences
    refine ⟨(h.dropped hc hdropped).replace ?_ (built_eraseChild i v W₁.next) (by simp) (by simp),
      hdropped.controllers⟩
    rw [hdropped.values]
    exact hfind

lemma swap_eq {y : Addr} (h : W.Ownership temps) (hcontent : content ∈ temps)
    (c : Nat) : ∃ dependencies, (W.controller c).swap (rootAddr content) y =
        { W.controller c with dependencyMap := dependencies } ∧
      ∀ p x, (p, x) ∈ (W.controller c).dependencyMap → p ≠ rootAddr content → x ≠ rootAddr content →
        (p, x) ∈ dependencies := by
  refine CefValueController.swap_eq ?_ (CefValueController.reference_eq_none_iff.mpr fun e he heq => ?_)
  · refine isOwner_eq_false_iff.mpr fun w hw => ?_
    obtain ⟨t, ht, heq⟩ := h.root c _ w hw
    have hcell : t.label.cell = content.label.cell := congrArg Addr.block heq
    have hcount := le_trans (h.memory t.label.cell) (fresh_le_one _ _ _)
    have h₁ := count_pos_iff.mpr (mem_blocksIn.mpr ⟨t, ht, cell_mem_blocks t⟩)
    have h₂ := count_pos_iff.mpr (mem_blocksIn.mpr ⟨content, hcontent, hcell ▸ cell_mem_blocks content⟩)
    omega
  · refine (h.key c e he).2 content (.inr hcontent) ?_
    rw [heq]
    rfl

lemma setInternal_parts {r : Addr × Nat}
    (h : W.Ownership (content :: temps)) (hc : c < W.controllers)
    (hset : W.setInternal c a pos content = .ok (r, W')) :
    ∃ removed W₁ v v' next i t dependencies, W.removeInternal c a pos = .ok (removed, W₁) ∧
      W₁.Ownership (content :: temps) ∧ W₁.controllers = W.controllers ∧
      findIn slot a forest 0 W₁.values = some v ∧ v.label.kind.type = some (containerType pos) ∧
      place v pos removed content W₁.next = (v', next, i) ∧
      Built v (innerBlocks content) W₁.next v' next ∧ v'.children[i]? = some t ∧
      r = (slot v'.label i t.label, t.label.cell) ∧
      W' = (W₁.replace a v' next).setController c
        { W₁.controller c with dependencyMap := dependencies } ∧
      ∀ p x, (p, x) ∈ (W₁.controller c).dependencyMap → p ≠ rootAddr content →
        x ≠ rootAddr content → (p, x) ∈ dependencies := by
  obtain ⟨removed, W₁, v, t, hremove, hderef, ht, hr₁, hr₂, rfl⟩ := setInternal_eq_ok hset
  obtain ⟨h₁, hcontrollers⟩ := h.removeInternal hc hremove
  obtain ⟨hfind, htype⟩ := deref_eq_ok hderef
  obtain ⟨dependencies, hswap, hkept⟩ := h₁.swap_eq (y := r.1) mem_cons_self c
  refine ⟨removed, W₁, v, (place v pos removed content W₁.next).1,
    (place v pos removed content W₁.next).2.1, (place v pos removed content W₁.next).2.2, t,
    dependencies, hremove, h₁, hcontrollers, hfind, htype, rfl,
    built_place v pos removed content W₁.next, ht, Prod.ext hr₁ hr₂, ?_, hkept⟩
  rw [hswap]

lemma setInternal {r : Addr × Nat} (h : W.Ownership (content :: temps)) (hc : c < W.controllers)
    (hset : W.setInternal c a pos content = .ok (r, W')) :
    W'.Ownership temps ∧ W'.controllers = W.controllers ∧
      ∃ v i t, findIn slot a forest 0 W'.values = some v ∧ v.children[i]? = some t ∧
        r = (slot v.label i t.label, t.label.cell) := by
  obtain ⟨removed, W₁, v, v', next, i, t, dependencies, -, h₁, hcontrollers, hfind, -, -, hbuilt, ht, rfl,
    rfl, -⟩ := h.setInternal_parts hc hset
  have hplaced : (W₁.replace a v' next).Ownership temps := by
    refine h₁.replace hfind hbuilt (fun b => ?_) fun t ht => mem_cons_of_mem _ ht
    rw [blocksIn_cons, count_append, count_blocks]
    omega
  refine ⟨?_, hcontrollers, v', i, t, findIn_replace hfind hbuilt.cell next, ht, rfl⟩
  exact hplaced.setDependencies (by rw [← hcontrollers] at hc; exact hc) dependencies

section

variable (h : W.Ownership temps)
include h

lemma copyOrDetachValue {n : Nat}
    (hn : n ∈ held) (hlt : n < W.controllers) (hcopy : W.copyOrDetachValue held w n = .ok (v, W')) :
    W'.Ownership (v :: temps) ∧ W'.controllers = W.controllers := by
  by_cases hmode : (W.wrapper w).mode = .ownerWillDelete
  · obtain ⟨c, hattached, -, hv, hdetached⟩ := copyOrDetachValue_owner hcopy hmode
      (fun c a ha => (h.isOwner_iff ha).mpr hmode) hn
    exact ⟨h.detached hlt hv hmode hattached hdetached, hdetached.controllers⟩
  · obtain ⟨next, rfl, hle, hcount, -⟩ := copyOrDetachValue_copy hcopy hmode
    exact ⟨h.make hle hcount, rfl⟩

lemma getOrCreateRef {x : Addr} {u : Value} (hu : u ∈ W.values)
    (hx : x.block ∈ innerBlocks u) (hc : c < W.controllers) (type : ValueType) (parent : Addr)
    (readOnly : Bool) (element : Nat) :
    (W.getOrCreateRef c type x parent readOnly element).2.Ownership temps := by
  rcases getOrCreateRef_cases W c type x parent readOnly element with ⟨w, -, heq⟩ | ⟨-, href⟩
  · rw [heq]
    exact h
  · exact h.newReference hu hx hc rfl rfl rfl href

lemma setObjects (object : Nat → CefValueImpl) (objects : Nat) :
    { W with object := object, objects := objects }.Ownership temps :=
  h.of_sameOwners ⟨fun _ => rfl, rfl, fun _ => .inl rfl, fun _ => List.Sublist.refl _, rfl, rfl,
    fun _ _ => rfl, le_refl _⟩ h.memory fun _ ht => .inl ht

lemma makeLeaf (s : Scalar) :
    { W with next := W.next + 1 }.Ownership (leaf W.next (.scalar s) :: temps) :=
  h.make (le_succ _) fun b => count_blocks_leaf b W.next s

lemma swapValue {o arg cell : Nat} {parent : Addr} {last : Bool} {u : Value} (hu : u ∈ W.values)
    (hb : b.block ∈ innerBlocks u)
    (hc : c < W.controllers) (hswap : W.swapValue held o arg c b parent cell last = .ok W') :
    W'.Ownership temps := by
  obtain ⟨type, readOnly, object, hcases⟩ := swapValue_cases hswap
  have href := (h.getOrCreateRef hu hb hc type parent readOnly cell).setObjects object
    (W.getOrCreateRef c type b parent readOnly cell).2.objects
  rcases hcases with rfl | hdestroy
  · exact href
  · exact href.destroy hdestroy

end

lemma shrink {size : Nat} : ∀ {n : Nat} {W : World}, W.Ownership temps → c < W.controllers →
    World.shrink c a size n W = .ok W' → W'.Ownership temps
  | 0, W, h, _, hshrink => by
    cases hshrink
    exact h
  | n + 1, W, h, hc, hshrink => by
    obtain ⟨⟨r, W₁⟩, hremove, hshrink⟩ := Fallible.bind_eq_ok_iff.mp hshrink
    obtain ⟨h₁, hcontrollers⟩ := h.removeInternal hc hremove
    exact shrink h₁ (by rw [hcontrollers]; exact hc) hshrink

/-- **Every call keeps the invariant.**

**Proof sketch.** By the things that a call can do. The receiver's controller is one that has been
made, and what is registered or unregistered for it lies inside a value. -/
theorem step {op : Op} (h : W.Ownership []) (hstep : W.step op = .ok W') : W'.Ownership [] := by
  cases step_effect hstep with
  | objects op object objects => exact h.setObjects object objects
  | owner op type hle hcount hformed => exact h.newOwner type hle hcount
  | reference op hw hv ht type readOnly object objects =>
    obtain ⟨u, hu, hx⟩ := exists_innerBlocks hv (slot_block ht)
    exact (h.getOrCreateRef hu hx (h.attached _ _ _ hw).2.2 _ _ _ _).setObjects object objects
  | assign s hop hw hset =>
    exact ((h.makeLeaf s).setInternal (h.attached _ _ _ hw).2.2 hset).1
  | @transfer _ w arg c a pos content r W₁ W₂ _ hop harg hw hcopy hset hswap =>
    have hc := (h.attached _ _ _ hw).2.2
    obtain ⟨h₁, hcontrollers₁⟩ := h.copyOrDetachValue mem_cons_self hc hcopy
    obtain ⟨h₂, hcontrollers₂, v, i, t, hv, ht, rfl⟩ :=
      h₁.setInternal (by rw [hcontrollers₁]; exact hc) hset
    rcases hswap with rfl | ⟨o, last, hswap⟩
    · exact h₂
    · obtain ⟨u, hu, hb⟩ := exists_innerBlocks hv (slot_block ht)
      exact h₂.swapValue hu hb (by rw [hcontrollers₂, hcontrollers₁]; exact hc) hswap
  | remove hw hremove => exact (h.removeInternal (h.attached _ _ _ hw).2.2 hremove).1
  | @clear w c a v W₁ hw hremove hv =>
    obtain ⟨gone, hdropped, -⟩ := removeDependencies_dropped hremove
    exact (h.dropped (h.attached _ _ _ hw).2.2 hdropped).replace hv (built_cleared v W₁.next)
      (by simp) (by simp)
  | shrink hw hv htype hshrink => exact h.shrink (h.attached _ _ _ hw).2.2 hshrink
  | @grow w c size a v hw hv htype hsize =>
    exact h.replace hv (built_padTo size W.next v) (by simp) (by simp)
  | destroy hdestroy => exact h.destroy hdestroy

lemma new : World.new.Ownership [] := by
  refine ⟨fun b => ?_, ?_, ?_, ?_, ?_, ?_, ?_, ?_, ?_, ?_, ?_, fun _ _ => rfl⟩
  all_goals simp [World.new, CefValueController.new, noWrapper]

/-- **The invariant holds in every state that calls can reach.** -/
theorem run {ops : List Op} (h : ops.foldlM call World.new = some W) : W.Ownership [] :=
  Transition.run_invariant (I := fun W => W.Ownership [])
    (fun _ _ _ hW hcall => hW.step (call_eq_some hcall)) new h

end Ownership

end CefCore.Values.World
