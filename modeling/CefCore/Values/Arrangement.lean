import CefCore.Values.Ranks

/-!
# The arrangement of values and dependencies

A wrapper that removes something from its container must not be detached by that itself. This is
so because the dependencies lead down: there are ranks for the blocks of memory that grow along
every dependency and on the way down in every value. Dependencies stay when the values they were
made for have moved, so the ranks are kept for blocks that nothing is in any more.

## Main results

* `Arranged.step`: a call keeps the arrangement.
-/

namespace CefCore.Values.World

open PlacedTree List Fallible CefValueController Nat

variable {W W' W₁ : World} {c : Nat} {a b : Addr} {temps temps' : List Value}

/-- The invariant: the keys are in order; the dependencies are on registered values, one on each; a
value has dependencies in its own controller only; and there are ranks that grow on the way down, in
the values and along the dependencies. -/
structure Arranged (W : World) (temps : List Value) : Prop where
  sorted : ∀ t, t ∈ W.values ∨ t ∈ temps → t.Everywhere KeysSorted
  target : ∀ c, ∀ e ∈ (W.controller c).dependencyMap, W.Registered c e.2
  single : ∀ c, ((W.controller c).dependencyMap.map (·.2)).Nodup
  source : ∀ c, ∀ e ∈ (W.controller c).dependencyMap, e.1.block < W.next
  home : ∀ c, ∀ e ∈ (W.controller c).dependencyMap, ∀ t ∈ W.values, e.1.block ∈ blocks t →
    ∃ w, (W.controller c).owner = some (rootAddr t, w)
  away : ∀ c, ∀ e ∈ (W.controller c).dependencyMap, ∀ t ∈ temps, e.1.block ∉ blocks t
  ranks : ∃ rank : Nat → Nat,
    (∀ c, ∀ e ∈ (W.controller c).dependencyMap, rank e.1.block < rank e.2.block) ∧
      ∀ t, t ∈ W.values ∨ t ∈ temps → Ranked rank none (rootAddr t) t

/-! ### References that are dropped -/

/-- What has been dropped can be reached from `b` along dependencies, and there are none on it any
more. -/
structure Pruned (W W' : World) (c : Nat) (b : Addr) (gone : Addr → Bool) : Prop
    extends Dropped W W' c gone where
  reached : ∀ x, gone x = true →
    Relation.ReflTransGen (fun p y => (p, y) ∈ (W.controller c).dependencyMap) b x
  left : ∀ e ∈ (W'.controller c).dependencyMap, gone e.2 = false

lemma remove_pruned (hb : (W.controller c).isOwner b = false) (h : W.remove c b true = .ok W') :
    Pruned W W' c b fun x => x = b := by
  refine ⟨remove_dropped hb h, fun x hx => ?_, fun e he => ?_⟩
  · rw [of_decide_eq_true hx]
  · obtain ⟨-, rfl⟩ := notify_eq_ok h
    have he : e ∈ (Function.update W.controller c ((W.controller c).remove b true).1 c).dependencyMap :=
      he
    rw [Function.update_self, CefValueController.remove, if_neg (by simp [hb])] at he
    exact decide_eq_false (of_decide_eq_true (mem_filter.mp he).2)

lemma removeDependencies_pruned (hsingle : ((W.controller c).dependencyMap.map (·.2)).Nodup)
    (h : W.removeDependencies c a = .ok W') : ∃ gone, Pruned W W' c a gone := by
  obtain ⟨hdropped, hleft⟩ := removeDependencies_drained h
  refine ⟨_, hdropped, fun x hx => ?_, fun e he => ?_⟩
  · exact (Worklist.transGen_of_mem_drain (of_decide_eq_true hx)).to_reflTransGen
  · rw [hleft] at he
    exact decide_eq_false (Worklist.target_notMem_drain_successors hsingle e he)

lemma removeReferences_pruned {kind : Kind} (hb : (W.controller c).isOwner b = false)
    (hsingle : ((W.controller c).dependencyMap.map (·.2)).Nodup)
    (h : W.removeReferences c b kind = .ok W') : ∃ gone, Pruned W W' c b gone ∧ gone b = true := by
  obtain ⟨W₁, hremove, h⟩ := bind_eq_ok_iff.mp h
  have hpruned := remove_pruned hb hremove
  split at h
  · obtain ⟨gone, hpruned'⟩ :=
      removeDependencies_pruned (hsingle.sublist (hpruned.sublist.map _)) h
    refine ⟨_, ⟨hpruned.toDropped.trans hpruned'.toDropped, fun x hx => ?_, fun e he => ?_⟩,
      by simp⟩
    · rcases Bool.or_eq_true_iff.mp hx with hx | hx
      · exact hpruned.reached x hx
      · exact Relation.ReflTransGen.mono (fun p y hy => hpruned.sublist.mem hy) _ _
          (hpruned'.reached x hx)
    · rw [Bool.or_eq_false_iff]
      exact ⟨hpruned.left e (hpruned'.sublist.mem he), hpruned'.left e he⟩
  · cases h
    exact ⟨_, hpruned, decide_eq_true rfl⟩

/-! ### What keeps the arrangement -/

namespace Arranged

lemma of_fewer (hA : W.Arranged temps)
    (hdependencies : ∀ c, (W'.controller c).dependencyMap.Sublist (W.controller c).dependencyMap)
    (htarget : ∀ c, ∀ e ∈ (W'.controller c).dependencyMap, W.Registered c e.2 → W'.Registered c e.2)
    (howner : ∀ c, ∀ e ∈ (W'.controller c).dependencyMap,
      (W'.controller c).owner = (W.controller c).owner)
    (hvalues : ∀ t, t ∈ W'.values ∨ t ∈ temps' → t ∈ W.values ∨ t ∈ temps)
    (hhome : ∀ c, ∀ e ∈ (W'.controller c).dependencyMap, ∀ t ∈ W'.values, e.1.block ∈ blocks t →
      t ∈ W.values)
    (haway : ∀ c, ∀ e ∈ (W'.controller c).dependencyMap, ∀ t ∈ temps', e.1.block ∉ blocks t)
    (hnext : W.next ≤ W'.next) : W'.Arranged temps' := by
  obtain ⟨rank, hedges, hranked⟩ := hA.ranks
  refine ⟨fun t ht => hA.sorted t (hvalues t ht), fun c e he => ?_, fun c => ?_, fun c e he => ?_,
    fun c e he t ht hblock => ?_, haway, rank, fun c e he => ?_,
    fun t ht => hranked t (hvalues t ht)⟩
  · exact htarget c e he (hA.target c e ((hdependencies c).mem he))
  · exact (hA.single c).sublist ((hdependencies c).map _)
  · exact lt_of_lt_of_le (hA.source c e ((hdependencies c).mem he)) hnext
  · rw [howner c e he]
    exact hA.home c e ((hdependencies c).mem he) t (hhome c e he t ht hblock) hblock
  · exact hedges c e ((hdependencies c).mem he)

lemma pruned {gone : Addr → Bool} (hA : W.Arranged temps) (h : Pruned W W' c b gone) :
    W'.Arranged temps := by
  have hsublist : ∀ c', (W'.controller c').dependencyMap.Sublist
      (W.controller c').dependencyMap := by
    intro c'
    by_cases heq : c' = c
    · rw [heq]
      exact h.sublist
    · rw [h.others c' heq]
  refine hA.of_fewer hsublist (fun c' e he hregistered => ?_) (fun c' e he => ?_)
    (fun t ht => by rw [← h.values]; exact ht) (fun _ _ _ t ht _ => by rw [← h.values]; exact ht)
    (fun c' e he => hA.away c' e ((hsublist c').mem he)) (le_of_eq h.next.symm)
  · by_cases heq : c' = c
    · subst heq
      obtain ⟨r, hr, hr₁⟩ := mem_map.mp hregistered
      have hkept : gone r.1 = false := by
        rw [hr₁]
        exact h.left e he
      refine mem_map.mpr ⟨r, ?_, hr₁⟩
      rw [h.references]
      exact mem_filter.mpr ⟨hr, by simp [hkept]⟩
    · unfold Registered
      rw [h.others c' heq]
      exact hregistered
  · by_cases heq : c' = c
    · rw [heq, h.owner]
    · rw [h.others c' heq]

variable {next w : Nat} {v : Value}

section

variable (hA : W.Arranged temps)
include hA

lemma released (h : Released W W' w c a) : W'.Arranged temps := by
  have hsublist : ∀ c', (W'.controller c').dependencyMap.Sublist
      (W.controller c').dependencyMap := by
    intro c'
    by_cases heq : c' = c
    · rw [heq, h.left]
      exact filter_sublist
    · rw [h.others c' heq]
  refine hA.of_fewer hsublist (fun c' e he hregistered => ?_) (fun c' e he => ?_)
    (fun t ht => by rw [← h.values]; exact ht) (fun _ _ _ t ht _ => by rw [← h.values]; exact ht)
    (fun c' e he => hA.away c' e ((hsublist c').mem he)) (le_of_eq h.next.symm)
  · by_cases heq : c' = c
    · subst heq
      rw [h.left] at he
      obtain ⟨r, hr, hr₁⟩ := mem_map.mp hregistered
      have hne : e.2 ≠ a := of_decide_eq_true (mem_filter.mp he).2
      refine mem_map.mpr ⟨r, ?_, hr₁⟩
      rw [h.references]
      exact mem_filter.mpr ⟨hr, decide_eq_true (by rw [hr₁]; exact hne)⟩
    · unfold Registered
      rw [h.others c' heq]
      exact hregistered
  · by_cases heq : c' = c
    · rw [heq, h.owner]
    · rw [h.others c' heq]

lemma deleted (h : Deleted W W' w c a) : W'.Arranged temps := by
  have hne : ∀ c', ∀ e ∈ (W'.controller c').dependencyMap,
      W'.controller c' = W.controller c' := by
    intro c' e he
    refine h.others c' fun heq => ?_
    rw [heq, h.left] at he
    cases he
  have hvalues : ∀ t ∈ W'.values, t ∈ W.values := by
    intro t ht
    rw [h.values] at ht
    exact mem_of_mem_filter ht
  refine hA.of_fewer (fun c' => ?_) (fun c' e he hregistered => ?_) (fun c' e he => ?_)
    (fun t ht => ht.imp_left (hvalues t)) (fun _ _ _ t ht _ => hvalues t ht) (fun c' e he => ?_)
    (le_of_eq h.next.symm)
  · by_cases heq : c' = c
    · rw [heq, h.left]
      exact nil_sublist _
    · rw [h.others c' heq]
  · unfold Registered
    rw [hne c' e he]
    exact hregistered
  · rw [hne c' e he]
  · rw [hne c' e he] at he
    exact hA.away c' e he

lemma detached {n : Nat} (h : W.Ownership temps)
    (hv : v ∈ W.values) (hmode : (W.wrapper w).mode = .ownerWillDelete)
    (hattached : (W.wrapper w).attachment = some (c, rootAddr v))
    (hbare : (W.controller c).referenceMap = []) (hdetached : Detached W W' w c n v) :
    W'.Arranged (v :: temps) := by
  have hnone : (W.controller c).dependencyMap = [] := by
    refine eq_nil_iff_forall_not_mem.mpr fun e he => ?_
    have hregistered := hA.target c e he
    rw [Registered, hbare] at hregistered
    cases hregistered
  have hmaps : ∀ c', (W'.controller c').dependencyMap = (W.controller c').dependencyMap ∧
      (W'.controller c').referenceMap = (W.controller c').referenceMap := by
    intro c'
    by_cases hc' : c' = c
    · rw [hc', hdetached.left, hnone, hbare]
      exact ⟨rfl, rfl⟩
    · by_cases heq : c' = n
      · rw [heq, hdetached.taken, takeFrom_referenceMap_of_nil hbare]
        exact ⟨by simp [CefValueController.takeFrom, hnone], rfl⟩
      · rw [hdetached.others c' heq hc']
        exact ⟨rfl, rfl⟩
  have hne : ∀ c', ∀ e ∈ (W'.controller c').dependencyMap, c' ≠ c := by
    rintro c' e he rfl
    rw [(hmaps c').1, hnone] at he
    cases he
  have hvalues : ∀ t ∈ W'.values, t ∈ W.values := by
    intro t ht
    rw [hdetached.values] at ht
    exact mem_of_mem_filter ht
  refine hA.of_fewer (fun c' => by rw [(hmaps c').1]) (fun c' e he hregistered => ?_)
    (fun c' e he => ?_) (fun t ht => ?_) (fun _ _ _ t ht _ => hvalues t ht) (fun c' e he t ht => ?_)
    (le_of_eq hdetached.next.symm)
  · unfold Registered
    rw [(hmaps c').2]
    exact hregistered
  · by_cases heq : c' = n
    · rw [heq, hdetached.taken]
      rfl
    · rw [hdetached.others c' heq (hne c' e he)]
  · rcases ht with ht | ht
    · exact .inl (hvalues t ht)
    · rcases mem_cons.mp ht with rfl | ht
      · exact .inl hv
      · exact .inr ht
  · have he' := he
    rw [(hmaps c').1] at he'
    rcases mem_cons.mp ht with rfl | ht
    · intro hblock
      obtain ⟨w', howner⟩ := hA.home c' e he' t hv hblock
      exact hne c' e he
        (h.unique c' c _ _ _ howner ((h.owner_iff c _ w).mpr ⟨hmode, hattached⟩))
    · exact hA.away c' e he' t ht

/-! ### New values -/

lemma target_lt (h : W.Ownership temps) {e : Addr × Addr}
    (he : e ∈ (W.controller c).dependencyMap) : e.2.block < W.next := by
  obtain ⟨r, hr, hr₁⟩ := mem_map.mp (hA.target c e he)
  rw [← hr₁]
  exact (h.key c r hr).1

lemma origin (horigin : W.Origin v) (hcount : ∀ b, (blocks v).count b ≤ fresh W.next next b) :
    v.Everywhere KeysSorted ∧ Ranked id none (rootAddr v) v := by
  rcases horigin with ⟨kind, rfl⟩ | ⟨x, u, hfind, hv⟩
  · refine ⟨sorted_leaf _ _, ranked_leaf (fun b hb => ?_) (by simp)⟩
    have hblocks : blocks (leaf W.next kind) = W.next :: (leaf W.next kind).label.buffers := by
      rw [blocks_eq, innerBlocks]
      simp [leaf]
    have h₁ := hcount b
    rw [hblocks, count_cons] at h₁
    have h₂ := count_pos_iff.mpr hb
    have h₃ : W.next ≤ b := by
      by_contra hlt
      rw [fresh_eq_zero (not_le.mp hlt)] at h₁
      omega
    have h₄ := fresh_le_one W.next next b
    have hne : W.next ≠ b := by
      intro heq
      rw [if_pos (by simp [heq])] at h₁
      omega
    exact lt_of_le_of_ne h₃ hne
  · have hsorted : (clone W.next u).1.Everywhere KeysSorted := by
      refine sorted_clone u W.next (EverywhereIn.find slot forest 0 W.values ?_ hfind)
      exact everywhereIn_iff.mpr fun t ht => hA.sorted t (.inl ht)
    have hranked : Ranked id none (rootAddr (clone W.next u).1) (clone W.next u).1 :=
      ranked_clone u W.next none _ (by simp [rootAddr]) (by simp)
    rcases hv with rfl | rfl
    · exact ⟨hsorted, hranked⟩
    · refine ⟨sorted_removeEmptyValueDicts _ hsorted, fun e he => hranked e ?_⟩
      rw [rootAddr, label_removeEmptyValueDicts, ← rootAddr] at he
      exact (entries_removeEmptyValueDicts _ _ _).mem he

lemma make (h : W.Ownership temps)
    (hle : W.next ≤ next) (hcount : ∀ b, (blocks v).count b ≤ fresh W.next next b)
    (horigin : W.Origin v) : { W with next := next }.Arranged (v :: temps) := by
  obtain ⟨hsorted, hranked⟩ := hA.origin horigin hcount
  obtain ⟨rank, hedges, hranks⟩ := hA.ranks
  have hfresh : ∀ b ∈ blocks v, W.next ≤ b := by
    intro b hb
    by_contra hlt
    have h₁ := hcount b
    have h₂ := count_pos_iff.mpr hb
    rw [fresh_eq_zero (not_le.mp hlt)] at h₁
    omega
  have hcases : ∀ t, t ∈ W.values ∨ t ∈ v :: temps → t = v ∨ t ∈ W.values ∨ t ∈ temps := by
    intro t ht
    rw [mem_cons] at ht
    tauto
  refine ⟨fun t ht => ?_, hA.target, hA.single, fun c e he => ?_, hA.home, fun c e he t ht => ?_,
    fun b => if b < W.next then rank b else b, fun c e he => ?_, fun t ht => ?_⟩
  · rcases hcases t ht with rfl | ht
    · exact hsorted
    · exact hA.sorted t ht
  · exact lt_of_lt_of_le (hA.source c e he) hle
  · rcases mem_cons.mp ht with rfl | ht
    · exact fun hblock => absurd (hA.source c e he) (not_lt.mpr (hfresh _ hblock))
    · exact hA.away c e he t ht
  · dsimp only
    rw [if_pos (hA.source c e he), if_pos (hA.target_lt h he)]
    exact hedges c e he
  · rcases hcases t ht with rfl | ht
    · exact hranked.shift 0 fun b hb => if_neg (not_lt.mpr (hfresh b hb))
    · exact (hranks t ht).shift 0 fun b hb => if_pos (h.lt_next ht hb)

lemma newOwner (h : W.Ownership temps) (type : ValueType) (hle : W.next ≤ next)
    (hcount : ∀ b, (blocks v).count b ≤ fresh W.next next b) (horigin : W.Origin v) :
    (W.newOwner type v next).Arranged temps := by
  have hmake := hA.make h hle hcount horigin
  have hcontroller : ∀ c, ∀ e ∈ ((W.newOwner type v next).controller c).dependencyMap,
      (W.newOwner type v next).controller c = W.controller c := by
    intro c e he
    refine Function.update_of_ne (fun heq => ?_) _ _
    subst heq
    simp [World.newOwner, CefValueController.setOwner, CefValueController.new] at he
  have hmem : ∀ c, ∀ e ∈ ((W.newOwner type v next).controller c).dependencyMap,
      e ∈ (W.controller c).dependencyMap := by
    intro c e he
    rw [← hcontroller c e he]
    exact he
  refine hmake.of_fewer (fun c => ?_) (fun c e he hregistered => ?_) (fun c e he => ?_)
    (fun t ht => ?_) (fun c e he t ht hblock => ?_) (fun c e he t ht => ?_) (le_refl _)
  · by_cases heq : c = W.controllers
    · subst heq
      simp [World.newOwner, CefValueController.setOwner, CefValueController.new]
    · rw [World.newOwner]
      dsimp only
      rw [Function.update_of_ne heq]
  · unfold Registered
    rw [hcontroller c e he]
    exact hregistered
  · rw [hcontroller c e he]
  · rcases ht with ht | ht
    · rcases mem_cons.mp ht with rfl | ht
      · exact .inr mem_cons_self
      · exact .inl ht
    · exact .inr (mem_cons_of_mem _ ht)
  · rcases mem_cons.mp ht with rfl | ht
    · exact (hmake.away c e (hmem c e he) t mem_cons_self hblock).elim
    · exact ht
  · exact hA.away c e (hmem c e he) t ht

/-! ### New references -/

lemma getOrCreateRef {t : Value} {i : Nat} (h : W.Ownership temps)
    (hhosted : W.Hosted c a) (hv : findIn slot a forest 0 W.values = some v)
    (ht : v.children[i]? = some t) (type : ValueType) (readOnly : Bool) (element : Nat) :
    (W.getOrCreateRef c type (slot v.label i t.label) a readOnly element).2.Arranged temps := by
  obtain ⟨u, w, hu, howner, hfind⟩ := hhosted.tree h hv
  rcases getOrCreateRef_cases W c type (slot v.label i t.label) a readOnly element with
    ⟨w', -, heq⟩ | ⟨-, href⟩
  · rw [heq]
    exact hA
  generalize (W.getOrCreateRef c type (slot v.label i t.label) a readOnly element).2 = W' at href ⊢
  have hmem : ∀ c', ∀ e ∈ (W'.controller c').dependencyMap,
      c' = c ∧ e = (a, slot v.label i t.label) ∨ e ∈ (W.controller c').dependencyMap := by
    intro c' e he
    by_cases heq : c' = c
    · subst heq
      rw [href.added, mem_addDependency] at he
      exact he.imp_left fun he => ⟨rfl, he⟩
    · rw [href.others c' heq] at he
      exact .inr he
  have howner' : ∀ c', (W'.controller c').owner = (W.controller c').owner := by
    intro c'
    by_cases heq : c' = c
    · rw [heq, href.owner]
    · rw [href.others c' heq]
  have hregistered : ∀ c' x, W.Registered c' x → W'.Registered c' x := by
    intro c' x hx
    by_cases heq : c' = c
    · subst heq
      rw [Registered, href.references]
      exact mem_cons_of_mem _ hx
    · rw [Registered, href.others c' heq]
      exact hx
  have hblock := block_of_find hfind
  obtain ⟨rank, hedges, hranked⟩ := hA.ranks
  refine ⟨fun t ht => ?_, fun c' e he => ?_, fun c' => ?_, fun c' e he => ?_,
    fun c' e he t ht hblock' => ?_, fun c' e he t ht hblock' => ?_, rank, fun c' e he => ?_,
    fun t ht => ?_⟩
  · rw [href.values] at ht
    exact hA.sorted t ht
  · rcases hmem c' e he with ⟨rfl, rfl⟩ | he
    · rw [Registered, href.references]
      exact mem_cons_self
    · exact hregistered c' e.2 (hA.target c' e he)
  · by_cases heq : c' = c
    · subst heq
      rw [href.added, CefValueController.addDependency]
      split
      · exact hA.single c'
      · rw [map_cons, nodup_cons]
        refine ⟨fun hx => ?_, hA.single c'⟩
        obtain ⟨e, he, hx⟩ := mem_map.mp hx
        obtain ⟨r, hr, hr₁⟩ := mem_map.mp (hA.target c' e he)
        exact href.key r hr (hr₁.trans hx)
    · rw [href.others c' heq]
      exact hA.single c'
  · rw [href.next]
    rcases hmem c' e he with ⟨rfl, rfl⟩ | he
    · exact h.lt_next (.inl hu) hblock
    · exact hA.source c' e he
  · rw [href.values] at ht
    rw [howner' c']
    rcases hmem c' e he with ⟨rfl, rfl⟩ | he
    · obtain rfl := eq_of_count_le_one (h.count_values_le_one _) hu ht hblock hblock'
      exact ⟨w, howner⟩
    · exact hA.home c' e he t ht hblock'
  · rcases hmem c' e he with ⟨rfl, rfl⟩ | he
    · have h₁ := le_trans (h.memory a.block) (fresh_le_one _ _ _)
      have h₂ := count_pos_iff.mpr (mem_blocksIn.mpr ⟨u, hu, hblock⟩)
      have h₃ : 0 < (blocksIn temps).count a.block :=
        count_pos_iff.mpr (mem_blocksIn.mpr ⟨t, ht, hblock'⟩)
      omega
    · exact hA.away c' e he t ht hblock'
  · rcases hmem c' e he with ⟨rfl, rfl⟩ | he
    · obtain ⟨q, hq⟩ := (hranked u (.inl hu)).find hfind
      exact hq.child_lt ht
    · exact hedges c' e he
  · rw [href.values] at ht
    exact hranked t ht

end

end Arranged

/-! ### Changes of containers -/

section Replace

variable {elements : List Value} {u v v' : Value} {extra : List Nat} {next : Nat}

/-- The ranks after the values `elements` have been put where the rank is `r`: they keep the
distances. Blocks that have not been used get the rank `r`. -/
def putAt (rank : Nat → Nat) (elements : List Value) (next r b : Nat) : Nat :=
  if b ∈ blocksIn elements then rank b + r else if b < next then rank b else r

lemma mem_replace (hfind : findIn slot a forest 0 W.values = some v) : ∃ u ∈ W.values,
    u.find slot a (rootAddr u) = some v ∧ ∀ v' next, ∀ t ∈ (W.replace a v' next).values,
      t = u.modify slot a (fun _ => v') (rootAddr u) ∨ t ∈ W.values := by
  obtain ⟨l₁, u, l₂, hvalues, hu, hmodify⟩ := forest_split hfind
  refine ⟨u, by rw [hvalues]; simp, hu, fun v' next t ht => ?_⟩
  have ht : t ∈ l₁ ++ u.modify slot a (fun _ => v') (rootAddr u) :: l₂ := by
    rw [← hmodify]
    exact ht
  rw [hvalues]
  simp only [mem_append, mem_cons] at ht ⊢
  tauto

lemma notMem_elements (h : W.Ownership (elements ++ temps)) {t : Value}
    (ht : t ∈ W.values ∨ t ∈ temps) {b : Nat} (hb : b ∈ blocks t) : b ∉ blocksIn elements := by
  intro hmem
  have h₁ := le_trans (h.memory b) (fresh_le_one _ _ _)
  have h₂ := count_pos_iff.mpr hmem
  rw [blocksIn_append, count_append] at h₁
  rcases ht with ht | ht
  · have := count_pos_iff.mpr (mem_blocksIn.mpr ⟨t, ht, hb⟩)
    omega
  · have := count_pos_iff.mpr (mem_blocksIn.mpr ⟨t, ht, hb⟩)
    omega

variable {e : Addr × Addr}

lemma edge_notMem_elements (hA : W.Arranged (elements ++ temps)) (hr : W.Coherent (elements ++ temps))
    (he : e ∈ (W.controller c).dependencyMap) :
    e.1.block ∉ blocksIn elements ∧ e.2.block ∉ blocksIn elements := by
  refine ⟨fun hmem => ?_, fun hmem => ?_⟩
  · obtain ⟨t, ht, hmem⟩ := mem_blocksIn.mp hmem
    exact hA.away c e he t (mem_append_left _ ht) hmem
  · obtain ⟨t, ht, hmem⟩ := mem_blocksIn.mp hmem
    obtain ⟨r, hr', hr₁⟩ := mem_map.mp (hA.target c e he)
    rw [← hr₁] at hmem
    exact hr.away c r hr' t (mem_append_left _ ht) hmem

lemma putAt_kept (h : W.Ownership (elements ++ temps)) (rank : Nat → Nat) (r : Nat) {t : Value}
    (ht : t ∈ W.values ∨ t ∈ temps) {b : Nat} (hb : b ∈ blocks t) :
    putAt rank elements W.next r b = rank b := by
  unfold putAt
  rw [if_neg (notMem_elements h ht hb),
    if_pos (h.lt_next (ht.imp_right (mem_append_right _)) hb)]

section

variable (hA : W.Arranged (elements ++ temps))
include hA

lemma Arranged.putAt_edge (h : W.Ownership (elements ++ temps))
    (hr : W.Coherent (elements ++ temps)) {rank : Nat → Nat} {r : Nat}
    (he : e ∈ (W.controller c).dependencyMap) (hlt : rank e.1.block < rank e.2.block) :
    putAt rank elements W.next r e.1.block < putAt rank elements W.next r e.2.block := by
  obtain ⟨hsource, htarget⟩ := edge_notMem_elements hA hr he
  unfold putAt
  rw [if_neg hsource, if_neg htarget, if_pos (hA.source c e he), if_pos (hA.target_lt h he)]
  exact hlt

lemma Arranged.home_modify (hu : u ∈ W.values)
    (hfind : u.find slot a (rootAddr u) = some v) (hbuilt : Built v extra W.next v' next)
    (hextra : ∀ b ∈ extra, b ∈ blocksIn elements) (he : e ∈ (W.controller c).dependencyMap)
    (hblock : e.1.block ∈ blocks (u.modify slot a (fun _ => v') (rootAddr u))) :
    ∃ w, (W.controller c).owner = some (rootAddr (u.modify slot a (fun _ => v') (rootAddr u)), w) := by
  obtain ⟨-, -, hcount⟩ := modify_spec hfind hbuilt.cell
  rw [rootAddr_modify hfind hbuilt.cell]
  refine hA.home c e he u hu (count_pos_iff.mp ?_)
  have hnot : e.1.block ∉ extra := fun hmem => by
    obtain ⟨t, ht, hmem⟩ := mem_blocksIn.mp (hextra _ hmem)
    exact hA.away c e he t (mem_append_left _ ht) hmem
  have h₁ := count_pos_iff.mpr hblock
  have h₂ := hcount e.1.block
  have h₃ := hbuilt.count_le e.1.block
  have h₄ := count_eq_zero_of_not_mem hnot
  rw [fresh_eq_zero (hA.source c e he)] at h₃
  omega

/-- **A changed container** keeps the arrangement, if it is arranged itself whenever the values that
are put into it are.

**Proof sketch.** The values that are put in keep the distances of their ranks and are moved down to
the rank of the children. -/
lemma Arranged.replace (h : W.Ownership (elements ++ temps))
    (hr : W.Coherent (elements ++ temps)) (hfind : findIn slot a forest 0 W.values = some v)
    (hbuilt : Built v extra W.next v' next) (hextra : ∀ b ∈ extra, b ∈ blocksIn elements)
    (hkey : v'.label.key = v.label.key)
    (hsorted : v.Everywhere KeysSorted → (∀ t ∈ elements, t.Everywhere KeysSorted) →
      v'.Everywhere KeysSorted)
    (hranked : ∀ (rank : Nat → Nat) q, v.Everywhere KeysSorted →
      (∀ b, W.next ≤ b → rank b = childRank rank a v) →
      (∀ t ∈ elements, Ranked rank none (rootAddr t) t ∧ childRank rank a v ≤ rank t.label.cell) →
      Ranked rank q a v → Ranked rank q a v') : (W.replace a v' next).Arranged temps := by
  obtain ⟨rank, hedges, hranks⟩ := hA.ranks
  obtain ⟨u, hu, hfindu, hmem⟩ := mem_replace hfind
  have hv := (hA.sorted u (.inl hu)).find slot _ u hfindu
  have hcases : ∀ t, t ∈ (W.replace a v' next).values ∨ t ∈ temps →
      t = u.modify slot a (fun _ => v') (rootAddr u) ∨ t ∈ W.values ∨ t ∈ temps := fun t ht =>
    ht.elim (fun ht => (hmem v' next t ht).imp_right .inl) fun ht => .inr (.inr ht)
  have hchild : childRank (putAt rank elements W.next (childRank rank a v)) a v =
      childRank rank a v := by
    refine childRank_congr (putAt_kept h _ _ (.inl hu) (block_of_find hfindu)) fun b hb => ?_
    refine putAt_kept h _ _ (.inl hu) (mem_blocks_of_mem_innerBlocks (count_pos_iff.mp ?_))
    refine lt_of_lt_of_le (count_pos_iff.mpr ?_) (count_innerBlocks_find hfindu b)
    exact mem_append_left _ hb
  have hkept : ∀ t, t ∈ W.values ∨ t ∈ temps →
      Ranked (putAt rank elements W.next (childRank rank a v)) none (rootAddr t) t := fun t ht =>
    (hranks t (ht.imp_right (mem_append_right _))).shift 0 fun b hb => putAt_kept h _ _ ht hb
  refine ⟨fun t ht => ?_, hA.target, hA.single, fun c e he => ?_, fun c e he t ht hblock => ?_,
    fun c e he t ht => hA.away c e he t (mem_append_right _ ht),
    putAt rank elements W.next (childRank rank a v),
    fun c e he => hA.putAt_edge h hr he (hedges c e he), fun t ht => ?_⟩
  · rcases hcases t ht with rfl | ht
    · refine Everywhere.modify slot (hsorted hv fun t ht => ?_) (fun l l₁ l₂ hl hkind => ?_) _ u
        (hA.sorted u (.inl hu)) hfindu
      · exact hA.sorted t (.inr (mem_append_left _ ht))
      · have hl := hl hkind
        rw [map_append, map_cons] at hl ⊢
        rw [hkey]
        exact hl
    · exact hA.sorted t (ht.imp_right (mem_append_right _))
  · exact lt_of_lt_of_le (hA.source c e he) hbuilt.le
  · rcases hmem v' next t ht with rfl | ht
    · exact hA.home_modify hu hfindu hbuilt hextra he hblock
    · exact hA.home c e he t ht hblock
  · rcases hcases t ht with rfl | ht
    · rw [rootAddr_modify hfindu hbuilt.cell]
      refine ranked_modify (hkept u (.inl hu)) hfindu hbuilt.cell fun q hq =>
        hranked _ q hv (fun b hb => ?_) (fun t ht => ?_) hq
      · rw [hchild, putAt, if_neg, if_neg (not_lt.mpr hb)]
        intro hmem
        obtain ⟨t, ht, hmem⟩ := mem_blocksIn.mp hmem
        exact absurd (h.lt_next (.inr (mem_append_left _ ht)) hmem) (not_lt.mpr hb)
      · have hput : ∀ b ∈ blocks t, putAt rank elements W.next (childRank rank a v) b =
            rank b + childRank rank a v := fun b hb => if_pos (mem_blocksIn.mpr ⟨t, ht, hb⟩)
        refine ⟨(hranks t (.inr (mem_append_left _ ht))).shift _ hput, ?_⟩
        rw [hchild, hput _ (cell_mem_blocks t)]
        exact le_add_left _ _
    · exact hkept t ht

end

end Replace

/-! ### The methods -/

lemma setController_replace (W : World) (c : Nat) (a : Addr) (v : Value) (next : Nat) :
    (W.replace a v next).setController c (W.controller c) = W.replace a v next := by
  simp [setController, World.replace]

namespace Arranged

variable {held : List Nat} {i : Nat} {pos : Position} {t v : Value}

section

variable (hA : W.Arranged temps)
include hA

/-- **What is removed from a container does not take the container along**: it is further down, and
the dependencies lead down from there. -/
theorem gone_eq_false {gone : Addr → Bool}
    (hfind : findIn slot a forest 0 W.values = some v) (ht : v.children[i]? = some t)
    (hpruned : Pruned W W' c (slot v.label i t.label) gone) : gone a = false := by
  rw [← Bool.not_eq_true]
  intro hgone
  obtain ⟨u, hu, hfindu, -⟩ := mem_replace hfind
  obtain ⟨rank, hedges, hranks⟩ := hA.ranks
  obtain ⟨q, hq⟩ := (hranks u (.inl hu)).find hfindu
  have hle : ∀ x, Relation.ReflTransGen (fun p y => (p, y) ∈ (W.controller c).dependencyMap)
      (slot v.label i t.label) x → rank (slot v.label i t.label).block ≤ rank x.block := by
    intro x hx
    induction hx with
    | refl => exact le_refl _
    | tail _ hedge ih => exact le_trans ih (le_of_lt (hedges c _ hedge))
  exact absurd (hq.child_lt ht) (not_lt.mpr (hle a (hpruned.reached a hgone)))

lemma removeReferences {kind : Kind}
    (h : W.Ownership temps) (hfind : findIn slot a forest 0 W.values = some v)
    (ht : v.children[i]? = some t)
    (hreferences : W.removeReferences c (slot v.label i t.label) kind = .ok W₁) :
    ∃ gone, Dropped W W₁ c gone ∧ gone (slot v.label i t.label) = true ∧ gone a = false ∧
      W₁.Arranged temps := by
  obtain ⟨u, hu, hinner⟩ := Ownership.exists_innerBlocks hfind (slot_block ht)
  obtain ⟨gone, hpruned, hgone⟩ :=
    removeReferences_pruned (h.isOwner_eq_false hu hinner c) (hA.single c) hreferences
  exact ⟨gone, hpruned.toDropped, hgone, hA.gone_eq_false hfind ht hpruned, hA.pruned hpruned⟩

lemma shrunk {v' : Value} (h : W.Ownership temps) (hr : W.Coherent temps)
    (hfind : findIn slot a forest 0 W.values = some v) (hbuilt : Built v [] W.next v' W.next)
    (hkey : v'.label.key = v.label.key)
    (hsorted : v.Everywhere KeysSorted → v'.Everywhere KeysSorted)
    (hranked : ∀ (rank : Nat → Nat) q, Ranked rank q a v → Ranked rank q a v') :
    (W.replace a v' W.next).Arranged temps := by
  have hA' : W.Arranged ([] ++ temps) := hA
  exact hA'.replace h hr hfind hbuilt (by simp) hkey (fun hv _ => hsorted hv)
    fun rank q _ _ _ hq => hranked rank q hq

lemma removeInternal {removed : Bool}
    (h : W.Ownership temps) (hr : W.Coherent temps) (hc : c < W.controllers)
    (hremove : W.removeInternal c a pos = .ok (removed, W')) : W'.Arranged temps := by
  obtain ⟨v, hderef, hcases⟩ := removeInternal_eq_ok hremove
  rcases hcases with ⟨-, -, rfl⟩ | ⟨i, b, t, W₁, hchild, -, hreferences, rfl⟩
  · exact hA
  · obtain ⟨hfind, -⟩ := deref_eq_ok hderef
    obtain ⟨ht, rfl, -⟩ := childAt_eq_some hchild
    obtain ⟨gone, hdropped, -, -, hA₁⟩ := hA.removeReferences h hfind ht hreferences
    rw [← hdropped.values] at hfind
    exact hA₁.shrunk (h.dropped hc hdropped) (hr.dropped hdropped) hfind (built_eraseChild i v _) rfl
      (fun hv => sorted_eraseChild hv i) fun rank q hq => hq.eraseChild i

end

lemma setInternal_parts {content : Value} {r : Addr × Nat}
    (hA : W.Arranged (content :: temps)) (h : W.Ownership (content :: temps))
    (hr : W.Coherent (content :: temps)) (hc : c < W.controllers)
    (hset : W.setInternal c a pos content = .ok (r, W')) :
    ∃ v W₁ gone, findIn slot a forest 0 W.values = some v ∧
      v.label.kind.type = some (containerType pos) ∧ Dropped W W₁ c gone ∧ gone a = false ∧
      W₁.Arranged (content :: temps) ∧
      W' = W₁.replace a (setChild v pos content W.next).1 (setChild v pos content W.next).2.1 := by
  obtain ⟨removed, W₂, v₂, t₂, hremove, hderef, -, -, -, rfl⟩ := setInternal_eq_ok hset
  obtain ⟨h₂, hcontrollers⟩ := h.removeInternal hc hremove
  obtain ⟨hr₂, -⟩ := hr.removeInternal h hc hremove
  have hA₂ := hA.removeInternal h hr hc hremove
  -- nothing is registered for the new value, and nothing depends on it
  have hswap : (W₂.controller c).swap (rootAddr content) r.1 = W₂.controller c := by
    have hcell := cell_mem_blocks content
    refine swap_eq_self ?_ ?_ fun e he => ⟨fun heq => ?_, fun heq => ?_⟩
    · refine isOwner_eq_false_iff.mpr fun w hw => ?_
      obtain ⟨t, ht, heq⟩ := h₂.root c _ w hw
      have hblock : t.label.cell = content.label.cell := congrArg Addr.block heq
      have h₂' : W₂.Ownership ([content] ++ temps) := h₂
      exact notMem_elements h₂' (.inl ht) (cell_mem_blocks t) (by rw [hblock]; simpa using hcell)
    · exact reference_eq_none_iff.mpr fun e he heq =>
        hr₂.away c e he content mem_cons_self (by rw [heq]; exact hcell)
    · exact hA₂.away c e he content mem_cons_self (by rw [heq]; exact hcell)
    · obtain ⟨k, hk, hk₁⟩ := mem_map.mp (hA₂.target c e he)
      exact hr₂.away c k hk content mem_cons_self (by rw [hk₁, heq]; exact hcell)
  obtain ⟨v, hderef', hcases⟩ := removeInternal_eq_ok hremove
  obtain ⟨hfind, htype⟩ := deref_eq_ok hderef'
  obtain ⟨hfind₂, -⟩ := deref_eq_ok hderef
  rw [hswap]
  rcases hcases with ⟨hnone, rfl, rfl⟩ | ⟨i, b, t, W₁, hchild, rfl, hreferences, rfl⟩
  · obtain rfl : v = v₂ := Option.some.inj (hfind.symm.trans hfind₂)
    refine ⟨v, W₂, _, hfind, htype, Dropped.refl W₂ c, rfl, hA, ?_⟩
    rw [setChild, childAt_eq_none hnone, setController_replace]
  · obtain ⟨ht, rfl, hindex⟩ := childAt_eq_some hchild
    obtain ⟨gone, hdropped, -, hgone, hA₁⟩ := hA.removeReferences h hfind ht hreferences
    refine ⟨v, W₁, gone, hfind, htype, hdropped, hgone, hA₁, ?_⟩
    rw [← hdropped.values] at hfind
    have hcell : (eraseChild i v).label.cell = v.label.cell := rfl
    obtain rfl : eraseChild i v = v₂ :=
      Option.some.inj ((findIn_replace hfind hcell W₁.next).symm.trans hfind₂)
    rw [setController_replace, replace_replace hfind hcell, setChild, hindex, ← hdropped.next]
    rfl

lemma setInternal {content : Value} {r : Addr × Nat}
    (hA : W.Arranged (content :: temps)) (h : W.Ownership (content :: temps))
    (hr : W.Coherent (content :: temps)) (hc : c < W.controllers)
    (hset : W.setInternal c a pos content = .ok (r, W')) : W'.Arranged temps := by
  obtain ⟨v, W₁, gone, hfind, htype, hdropped, -, hA₁, rfl⟩ := hA.setInternal_parts h hr hc hset
  rw [← hdropped.values] at hfind
  rw [← hdropped.next]
  have hA₁ : W₁.Arranged ([content] ++ temps) := hA₁
  refine hA₁.replace (h.dropped hc hdropped) (hr.dropped hdropped) hfind
    (built_setChild v pos content W₁.next) (fun b hb => ?_) (key_setChild htype content W₁.next)
    (fun hv hcontent => sorted_setChild hv (hcontent content (by simp)) htype)
    fun rank q hv hfresh helements hq => ?_
  · exact mem_blocksIn.mpr ⟨content, by simp, mem_blocks_of_mem_innerBlocks hb⟩
  · obtain ⟨hcontent, hdeep⟩ := helements content (by simp)
    exact hq.setChild hv htype hfresh hcontent hdeep

section

variable (hA : W.Arranged temps)
include hA

lemma copyOrDetachValue {w n : Nat} (h : W.Ownership temps) (hn : n ∈ held) (hbare : W.Bare w)
    (hcopy : W.copyOrDetachValue held w n = .ok (v, W')) : W'.Arranged (v :: temps) := by
  by_cases hmode : (W.wrapper w).mode = .ownerWillDelete
  · obtain ⟨c, hattached, -, hv, hdetached⟩ := copyOrDetachValue_owner hcopy hmode
      (fun c a ha => (h.isOwner_iff ha).mpr hmode) hn
    exact hA.detached h hv hmode hattached (hbare.referenceMap hmode hattached) hdetached
  · obtain ⟨next, rfl, hle, hcount, -, horigin⟩ := copyOrDetachValue_copy hcopy hmode
    exact hA.make h hle hcount horigin

lemma setObjects (object : Nat → CefValueImpl) (objects : Nat) :
    { W with object := object, objects := objects }.Arranged temps :=
  ⟨hA.sorted, hA.target, hA.single, hA.source, hA.home, hA.away, hA.ranks⟩

lemma destroy {w : Nat} (h : W.Ownership temps)
    (hdestroy : W.destroy held w = .ok W') : W'.Arranged temps := by
  rcases h.destroy_cases hdestroy with ⟨-, rfl⟩ | ⟨c, a, -, -, ⟨-, hreleased⟩ | ⟨-, hdeleted⟩⟩
  · exact ⟨hA.sorted, hA.target, hA.single, hA.source, hA.home, hA.away, hA.ranks⟩
  · exact hA.released hreleased
  · exact hA.deleted hdeleted

lemma swapValue {o arg : Nat} {last : Bool} (h : W.Ownership temps) (hc : c < W.controllers)
    (hhosted : W.Hosted c a)
    (hv : findIn slot a forest 0 W.values = some v) (ht : v.children[i]? = some t)
    (hswap : W.swapValue held o arg c (slot v.label i t.label) a t.label.cell last = .ok W') :
    W'.Arranged temps := by
  obtain ⟨type, readOnly, object, hcases⟩ := swapValue_cases hswap
  have href := (hA.getOrCreateRef h hhosted hv ht type readOnly t.label.cell).setObjects object
    (W.getOrCreateRef c type (slot v.label i t.label) a readOnly t.label.cell).2.objects
  rcases hcases with rfl | hdestroy
  · exact href
  · obtain ⟨u, w, hu, hx, -⟩ := hhosted.inner h hv (slot_block ht)
    exact href.destroy ((h.getOrCreateRef hu hx hc type a readOnly t.label.cell).setObjects _ _)
      hdestroy

end

lemma shrink {size : Nat} : ∀ {n : Nat} {W : World}, W.Arranged temps → W.Ownership temps →
    W.Coherent temps → c < W.controllers → World.shrink c a size n W = .ok W' → W'.Arranged temps
  | 0, W, hA, _, _, _, hshrink => by
    cases hshrink
    exact hA
  | n + 1, W, hA, h, hr, hc, hshrink => by
    obtain ⟨⟨r, W₁⟩, hremove, hshrink⟩ := bind_eq_ok_iff.mp hshrink
    obtain ⟨h₁, hcontrollers⟩ := h.removeInternal hc hremove
    exact shrink (hA.removeInternal h hr hc hremove) h₁ (hr.removeInternal h hc hremove).1
      (by rw [hcontrollers]; exact hc) hshrink

/-- **A call that transfers bare values keeps the arrangement.** -/
theorem step {op : Op} (hA : W.Arranged []) (h : W.Ownership []) (hr : W.Coherent [])
    (hbare : W.TransfersBare op) (hstep : W.step op = .ok W') : W'.Arranged [] := by
  cases step_effect hstep with
  | objects op object objects => exact hA.setObjects object objects
  | owner op type hle hcount hformed horigin => exact hA.newOwner h type hle hcount horigin
  | reference op hw hv ht type readOnly object objects =>
    exact (hA.getOrCreateRef h (hr.hosted h hw hv) hv ht type readOnly _).setObjects object objects
  | assign s hop hw hset =>
    have hcount := fun b => count_blocks_leaf b W.next s
    have hA₁ := hA.make h (le_succ _) hcount (.inl ⟨_, rfl⟩)
    exact hA₁.setInternal (h.makeLeaf s) (hr.make h hcount) (h.attached _ _ _ hw).2.2 hset
  | @transfer _ w arg c a pos content r W₁ W₂ _ hop harg hw hcopy hset hswap =>
    have hc := (h.attached _ _ _ hw).2.2
    obtain ⟨h₁, hcontrollers₁⟩ := h.copyOrDetachValue mem_cons_self hc hcopy
    obtain ⟨hr₁, hattached⟩ := hr.copyOrDetachValue h mem_cons_self (hbare arg harg) hcopy
    have hA₁ := hA.copyOrDetachValue h mem_cons_self (hbare arg harg) hcopy
    rw [← hcontrollers₁] at hc
    obtain ⟨h₂, hcontrollers₂, v', i, t, hv', ht, rfl⟩ := h₁.setInternal hc hset
    obtain ⟨hr₂, hhosted⟩ := hr₁.setInternal h₁ hc hset
    have hA₂ := hA₁.setInternal h₁ hr₁ hc hset
    rw [← hcontrollers₂] at hc
    rcases hswap with rfl | ⟨o, last, hswap⟩
    · exact hA₂
    · obtain ⟨v, hv, -⟩ := find_of_setInternal hset
      exact hA₂.swapValue h₂ hc (hhosted (hr₁.hosted h₁ (hattached w a hw) hv)) hv' ht hswap
  | remove hw hremove => exact hA.removeInternal h hr (h.attached _ _ _ hw).2.2 hremove
  | @clear w c a v W₁ hw hremove hv =>
    obtain ⟨gone, hpruned⟩ := removeDependencies_pruned (hA.single c) hremove
    have hdropped := hpruned.toDropped
    exact (hA.pruned hpruned).shrunk (h.dropped (h.attached _ _ _ hw).2.2 hdropped)
      (hr.dropped hdropped) hv (built_cleared v W₁.next) rfl sorted_cleared
      fun rank q hq => hq.cleared
  | shrink hw hv htype hshrink => exact hA.shrink h hr (h.attached _ _ _ hw).2.2 hshrink
  | @grow w c size a v hw hv htype hsize =>
    have hA' : W.Arranged ([] ++ []) := hA
    exact hA'.replace h hr hv (built_padTo size W.next v) (by simp) (key_padTo htype size W.next)
      (fun hsorted _ => sorted_padTo hsorted htype size W.next)
      fun rank q _ hfresh _ hq => hq.padTo htype hfresh
  | destroy hdestroy => exact hA.destroy h hdestroy

end Arranged

lemma arranged_of_along {ops : List Op} (halong : Transition.Along call TransfersBare World.new ops)
    (hrun : ops.foldlM call World.new = some W) :
    W.Ownership [] ∧ W.Coherent [] ∧ W.Arranged [] := by
  refine Transition.Along.invariant (I := fun W => W.Ownership [] ∧ W.Coherent [] ∧ W.Arranged [])
    (fun W op W' hW hbare hcall => ?_) ops World.new W ⟨Ownership.new, ?_, ?_⟩ halong hrun
  · have hstep := call_eq_some hcall
    exact ⟨hW.1.step hstep, hW.2.1.step hW.1 hbare hstep, hW.2.2.step hW.1 hW.2.1 hbare hstep⟩
  · refine ⟨?_, ?_, ?_⟩ <;> simp [World.new, CefValueController.new, noWrapper]
  · refine ⟨?_, ?_, ?_, ?_, ?_, ?_, id, ?_, ?_⟩ <;> simp [World.new, CefValueController.new]

end CefCore.Values.World
