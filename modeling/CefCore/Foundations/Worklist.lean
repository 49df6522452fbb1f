import Mathlib.Data.List.Nodup
import Mathlib.Logic.Relation

/-!
# A worklist that consumes a graph

A loop over a set of vertices: take one out, put its successors in, and delete its edges. It ends,
since every round takes a vertex out and puts at most as many in as it deletes edges.

## Main results

* `drain_closed`: what it has taken out at the end is closed under the edges.
-/

namespace Worklist

open List

variable {β : Type*} [DecidableEq β]

def successors (edges : List (β × β)) (v : β) : List β :=
  (edges.filter fun e => e.1 = v).map (·.2)

variable {edges : List (β × β)} {fuel : Nat} {v w : β}

lemma mem_successors : w ∈ successors edges v ↔ (v, w) ∈ edges := by
  unfold successors
  constructor
  · intro h
    obtain ⟨e, he, rfl⟩ := mem_map.mp h
    obtain ⟨he, hv⟩ := mem_filter.mp he
    have hv : e.1 = v := by simpa using hv
    rw [← hv]
    exact he
  · intro h
    exact mem_map.mpr ⟨(v, w), mem_filter.mpr ⟨h, by simp⟩, rfl⟩

/-- The loop: `work` is the set of vertices to be taken out, `done` has been taken out. -/
def drain : Nat → List β → List (β × β) → List β → List β × List (β × β)
  | 0, _, edges, done => (done, edges)
  | _ + 1, [], edges, done => (done, edges)
  | fuel + 1, v :: work, edges, done =>
    drain fuel ((successors edges v).filter (· ∉ work) ++ work) (edges.filter fun e => e.1 ≠ v)
      (v :: done)

lemma measure_lt (v : β) (work : List β) (edges : List (β × β)) :
    ((successors edges v).filter (· ∉ work) ++ work).length +
      (edges.filter fun e => e.1 ≠ v).length < (v :: work).length + edges.length := by
  have hfilter : ((successors edges v).filter (· ∉ work)).length ≤ (successors edges v).length :=
    length_filter_le _ _
  have hsplit : (successors edges v).length + (edges.filter fun e => e.1 ≠ v).length =
      edges.length := by
    have h := length_eq_length_filter_add (l := edges) (fun e => decide (e.1 = v))
    simp only [successors, length_map, ne_eq, decide_not]
    exact h.symm
  rw [length_append, length_cons]
  omega

/-- **The loop leaves nothing over**: with enough fuel the result contains what was to be taken
out, and is closed under the edges of a graph `r`, if each edge of `r` is either still there or
leads from a vertex that is done to one that is done or to be taken out.

**Proof sketch.** Induction on the fuel. Taking out `v` turns the edges from `v` into edges of the
second kind. -/
theorem drain_closed {r : β → β → Prop} : ∀ (fuel : Nat) (work : List β) (edges : List (β × β))
    (done : List β), work.length + edges.length ≤ fuel →
    (∀ a b, r a b → (a, b) ∈ edges ∨ a ∈ done ∧ (b ∈ done ∨ b ∈ work)) →
    (∀ e ∈ edges, e.1 ∉ done) → (∀ v, v ∈ done ∨ v ∈ work → v ∈ (drain fuel work edges done).1) ∧
      ∀ a b, r a b → a ∈ (drain fuel work edges done).1 → b ∈ (drain fuel work edges done).1
  | 0, work, edges, done, hfuel, hr, hedges => by
    have hwork : work = [] := length_eq_zero_iff.mp (by omega)
    have hempty : edges = [] := length_eq_zero_iff.mp (by omega)
    subst hwork hempty
    refine ⟨by simp [drain], fun a b hab ha => ?_⟩
    rcases hr a b hab with h | ⟨-, h | h⟩
    · simp at h
    · exact h
    · simp at h
  | fuel + 1, [], edges, done, hfuel, hr, hedges => by
    refine ⟨by simp [drain], fun a b hab ha => ?_⟩
    rcases hr a b hab with h | ⟨-, h | h⟩
    · exact (hedges _ h ha).elim
    · exact h
    · simp at h
  | fuel + 1, v :: work, edges, done, hfuel, hr, hedges => by
    have hmeasure := measure_lt v work edges
    have ih := drain_closed (r := r) fuel ((successors edges v).filter (· ∉ work) ++ work)
      (edges.filter fun e => e.1 ≠ v) (v :: done) (by omega) ?_ ?_
    · refine ⟨fun w hw => ih.1 w ?_, ih.2⟩
      simp only [mem_cons, mem_append] at hw ⊢
      tauto
    · intro a b hab
      by_cases ha : a = v
      · subst ha
        right
        refine ⟨mem_cons_self, ?_⟩
        rcases hr a b hab with h | ⟨-, h | h⟩
        · right
          by_cases hb : b ∈ work
          · exact mem_append_right _ hb
          · exact mem_append_left _
              (mem_filter.mpr ⟨mem_successors.mpr h, by simpa using hb⟩)
        · exact .inl (mem_cons_of_mem _ h)
        · rcases mem_cons.mp h with rfl | h
          · exact .inl mem_cons_self
          · exact .inr (mem_append_right _ h)
      · rcases hr a b hab with h | ⟨h, h' | h'⟩
        · exact .inl (mem_filter.mpr ⟨h, by simpa using ha⟩)
        · exact .inr ⟨mem_cons_of_mem _ h, .inl (mem_cons_of_mem _ h')⟩
        · right
          refine ⟨mem_cons_of_mem _ h, ?_⟩
          rcases mem_cons.mp h' with rfl | h'
          · exact .inl mem_cons_self
          · exact .inr (mem_append_right _ h')
    · intro e he
      obtain ⟨he, hne⟩ := mem_filter.mp he
      have hne : e.1 ≠ v := by simpa using hne
      intro hmem
      rcases mem_cons.mp hmem with h | h
      · exact hne h
      · exact hedges e he h

section FromVertex

variable {edges : List (β × β)} {v w : β} {fuel : Nat}

lemma mem_drain_of_edge {p : β} (hfuel : edges.length ≤ fuel) (hedge : (p, w) ∈ edges)
    (hp : p = v ∨ p ∈ (drain fuel (successors edges v) (edges.filter fun e => e.1 ≠ v) []).1) :
    w ∈ (drain fuel (successors edges v) (edges.filter fun e => e.1 ≠ v) []).1 := by
  have hclosed := drain_closed (r := fun a b => (a, b) ∈ edges ∧ a ≠ v) fuel (successors edges v)
    (edges.filter fun e => e.1 ≠ v) [] ?_ ?_ ?_
  · by_cases hv : p = v
    · subst hv
      exact hclosed.1 w (.inr (mem_successors.mpr hedge))
    · exact hclosed.2 p w ⟨hedge, hv⟩ (hp.resolve_left hv)
  · have h := length_eq_length_filter_add (l := edges) (fun e => decide (e.1 = v))
    simp only [successors, length_map, ne_eq, decide_not]
    omega
  · rintro a b ⟨hab, ha⟩
    exact .inl (mem_filter.mpr ⟨hab, by simpa using ha⟩)
  · simp

/-- **All that can be reached** from a vertex is taken out. -/
theorem mem_drain_of_transGen (hfuel : edges.length ≤ fuel)
    (h : Relation.TransGen (fun a b => (a, b) ∈ edges) v w) :
    w ∈ (drain fuel (successors edges v) (edges.filter fun e => e.1 ≠ v) []).1 := by
  induction h with
  | single hw => exact mem_drain_of_edge hfuel hw (.inl rfl)
  | tail _ hbc ih => exact mem_drain_of_edge hfuel hbc (.inr ih)

end FromVertex

lemma mem_drain_of_mem_done : ∀ (fuel : Nat) (work : List β) (edges : List (β × β))
    (done : List β), ∀ v ∈ done, v ∈ (drain fuel work edges done).1
  | 0, _, _, _ => fun _ hv => hv
  | _ + 1, [], _, _ => fun _ hv => hv
  | fuel + 1, _ :: _, _, _ => fun v hv =>
    mem_drain_of_mem_done fuel _ _ _ v (mem_cons_of_mem _ hv)

theorem mem_drain_edges {e : β × β} : ∀ (fuel : Nat) (work : List β) (edges : List (β × β))
    (done : List β), e ∈ edges → e.1 ∉ (drain fuel work edges done).1 →
    e ∈ (drain fuel work edges done).2
  | 0, work, edges, done, he, _ => he
  | fuel + 1, [], edges, done, he, _ => he
  | fuel + 1, v :: work, edges, done, he, hne => by
    refine mem_drain_edges fuel _ _ _ (mem_filter.mpr ⟨he, ?_⟩) hne
    have hv := mem_drain_of_mem_done fuel
      ((successors edges v).filter (· ∉ work) ++ work) (edges.filter fun e => e.1 ≠ v) (v :: done)
      v mem_cons_self
    have : e.1 ≠ v := by
      intro heq
      rw [← heq] at hv
      exact hne (heq ▸ hv)
    simpa using this

theorem mem_drain_edges_of_target {p : β} (hfuel : edges.length ≤ fuel) (hedge : (p, w) ∈ edges)
    (hw : w ∉ (drain fuel (successors edges v) (edges.filter fun e => e.1 ≠ v) []).1) :
    (p, w) ∈ (drain fuel (successors edges v) (edges.filter fun e => e.1 ≠ v) []).2 := by
  have hpv : p ≠ v := fun hp => hw (mem_drain_of_edge hfuel hedge (.inl hp))
  refine mem_drain_edges fuel _ _ _ (mem_filter.mpr ⟨hedge, by simpa using hpv⟩) fun hp => ?_
  exact hw (mem_drain_of_edge hfuel hedge (.inr hp))

lemma drain_induction {P : β → Prop} : ∀ (fuel : Nat) (work : List β) (edges : List (β × β))
    (done : List β), (∀ v, v ∈ done ∨ v ∈ work → P v) → (∀ e ∈ edges, P e.1 → P e.2) →
    ∀ v ∈ (drain fuel work edges done).1, P v
  | 0, _, _, _, hP, _ => fun v hv => hP v (.inl hv)
  | _ + 1, [], _, _, hP, _ => fun v hv => hP v (.inl hv)
  | fuel + 1, v :: work, edges, done, hP, hedges => by
    have hv := hP v (.inr mem_cons_self)
    refine drain_induction fuel _ _ _ (fun w hw => ?_) fun e he =>
      hedges e (mem_filter.mp he).1
    rcases hw with hw | hw
    · rcases mem_cons.mp hw with rfl | hw
      · exact hv
      · exact hP w (.inl hw)
    · rcases mem_append.mp hw with hw | hw
      · exact hedges (v, w) (mem_successors.mp (mem_filter.mp hw).1) hv
      · exact hP w (.inr (mem_cons_of_mem _ hw))

theorem transGen_of_mem_drain
    (h : w ∈ (drain fuel (successors edges v) (edges.filter fun e => e.1 ≠ v) []).1) :
    Relation.TransGen (fun a b => (a, b) ∈ edges) v w := by
  refine drain_induction fuel _ _ _ (fun u hu => ?_) (fun e he hP => ?_) w h
  · rcases hu with hu | hu
    · cases hu
    · exact Relation.TransGen.single (mem_successors.mp hu)
  · exact Relation.TransGen.tail hP (mem_filter.mp he).1

lemma drain_edges_sublist : ∀ (fuel : Nat) (work : List β) (edges : List (β × β)) (done : List β),
    (drain fuel work edges done).2.Sublist edges
  | 0, _, _, _ => List.Sublist.refl _
  | _ + 1, [], _, _ => List.Sublist.refl _
  | fuel + 1, _ :: _, _, _ =>
    (drain_edges_sublist fuel _ _ _).trans filter_sublist

lemma target_notMem_drain : ∀ (fuel : Nat) (work : List β) (edges : List (β × β)) (done : List β),
    (edges.map (·.2)).Nodup → (∀ e ∈ edges, e.2 ∉ done ∧ e.2 ∉ work) →
    ∀ e ∈ (drain fuel work edges done).2, e.2 ∉ (drain fuel work edges done).1
  | 0, _, _, _, _, hnot => fun e he => (hnot e he).1
  | _ + 1, [], _, _, _, hnot => fun e he => (hnot e he).1
  | fuel + 1, v :: work, edges, done, hnodup, hnot => by
    refine target_notMem_drain fuel _ _ _ (hnodup.sublist (filter_sublist.map _)) fun e he => ?_
    obtain ⟨he, hne⟩ := mem_filter.mp he
    obtain ⟨hdone, hwork⟩ := hnot e he
    rw [mem_cons, not_or] at hwork
    refine ⟨fun hmem => ?_, fun hmem => ?_⟩
    · rcases mem_cons.mp hmem with heq | hmem
      · exact hwork.1 heq
      · exact hdone hmem
    · rcases mem_append.mp hmem with hmem | hmem
      · have hedge := mem_successors.mp (mem_filter.mp hmem).1
        have heq := inj_on_of_nodup_map hnodup he hedge rfl
        exact of_decide_eq_true hne (congrArg Prod.fst heq)
      · exact hwork.2 hmem

/-- The edges that are left after the loop from a vertex do not lead to what is taken out. -/
theorem target_notMem_drain_successors (hnodup : (edges.map (·.2)).Nodup) :
    ∀ e ∈ (drain fuel (successors edges v) (edges.filter fun e => e.1 ≠ v) []).2,
      e.2 ∉ (drain fuel (successors edges v) (edges.filter fun e => e.1 ≠ v) []).1 := by
  refine target_notMem_drain fuel _ _ _ (hnodup.sublist (filter_sublist.map _)) fun e he => ?_
  obtain ⟨he, hne⟩ := mem_filter.mp he
  refine ⟨not_mem_nil, fun hmem => ?_⟩
  have heq := inj_on_of_nodup_map hnodup he (mem_successors.mp hmem) rfl
  exact of_decide_eq_true hne (congrArg Prod.fst heq)

end Worklist
