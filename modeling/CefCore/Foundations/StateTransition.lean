import Mathlib.Computability.StateTransition

/-!
# Runs of a deterministic machine

A machine makes steps until it stops, or runs forever. What can be told of a run from its first step
on is said here step by step, so that it can be told of a loop by induction on what the loop goes
through.

## Main results

* `Reaches.invariant`: what steps keep holds as far as a run gets.
-/

namespace StateTransition

open Option

variable {σ : Type*} {f : σ → Option σ} {a b : σ}

/-- **The invariant rule**: what every step keeps holds in every state reached. -/
theorem Reaches.invariant {I : σ → Prop} (hstep : ∀ s s', I s → f s = some s' → I s')
    (h : Reaches f a b) (hI : I a) : I b := by
  induction h with
  | refl => exact hI
  | tail _ hs ih => exact hstep _ _ ih hs

/-- **A machine that runs forever**: from every state that meets `I` it gets to another one. -/
theorem not_mem_eval_of_invariant {I : σ → Prop} (hstep : ∀ s, I s → ∃ s', f s = some s' ∧ I s')
    (hI : I a) : b ∉ eval f a := by
  intro h
  obtain ⟨hreach, hstop⟩ := mem_eval.mp h
  have hb : I b := hreach.invariant (fun s s' hs hnext => by
    obtain ⟨t, ht, hIt⟩ := hstep s hs
    rw [hnext, some.injEq] at ht
    exact ht ▸ hIt) hI
  obtain ⟨t, ht, _⟩ := hstep b hb
  rw [hstop] at ht
  cases ht

lemma eval_of_step (h : f a = some b) : eval f a = eval f b := reaches_eval (.single h)

lemma mem_eval_of_stop (h : f a = none) : b ∈ eval f a ↔ b = a := by
  have ha : a ∈ eval f a := mem_eval.mpr ⟨.refl, h⟩
  exact ⟨fun hb => Part.mem_unique hb ha, fun hb => hb ▸ ha⟩

lemma forall_reaches_iff_of_step {O : σ → Prop} (h : f a = some b) :
    (∀ s, Reaches f a s → O s) ↔ O a ∧ ∀ s, Reaches f b s → O s := by
  constructor
  · exact fun hO => ⟨hO a .refl, fun s hs => hO s (.head h hs)⟩
  · rintro ⟨ha, hb⟩ s hs
    obtain rfl | ⟨b', hb', hrest⟩ := hs.cases_head
    · exact ha
    · have hbb' : b = b' := some.inj (h.symm.trans hb')
      exact hb s (hbb' ▸ hrest)

lemma forall_reaches_iff_of_stop {O : σ → Prop} (h : f a = none) :
    (∀ s, Reaches f a s → O s) ↔ O a := by
  constructor
  · exact fun hO => hO a .refl
  · intro ha s hs
    obtain rfl | ⟨b', hb', _⟩ := hs.cases_head
    · exact ha
    · rw [mem_def, h] at hb'
      cases hb'

end StateTransition
