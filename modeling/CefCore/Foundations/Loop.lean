import Mathlib.Logic.Function.Iterate

/-!
# Loops that may not end

A loop `while (guard) body` on a state. The body is a relation between the states before and after
it, so that it may fail, and nothing is said about how many times it runs. That a loop ends is then a
statement of its own.

## Main definitions

* `Loop.Ends`: a state in which the loop may end.
-/

namespace Loop

variable {σ : Type*} {guard : σ → Prop} {body : σ → σ → Prop} {s s' t t' : σ}

/-- The loop `while (guard) body` from `s` ends in `t`. -/
inductive Ends (guard : σ → Prop) (body : σ → σ → Prop) : σ → σ → Prop
  | exit {s : σ} (h : ¬ guard s) : Ends guard body s s
  | next {s s' t : σ} (h : guard s) (hbody : body s s') (hrest : Ends guard body s' t) :
      Ends guard body s t

lemma Ends.not_guard (h : Ends guard body s t) : ¬ guard t := by
  induction h with
  | exit h => exact h
  | next _ _ _ ih => exact ih

/-- **The invariant rule**: what the body keeps holds at the end. -/
theorem Ends.invariant {I : σ → Prop} (hbody : ∀ s s', I s → guard s → body s s' → I s')
    (h : Ends guard body s t) (hI : I s) : I t := by
  induction h with
  | exit _ => exact hI
  | next hg hb _ ih => exact ih (hbody _ _ hI hg hb)

/-- **A loop that spins**: something that the body keeps holds the guard up. -/
theorem not_ends {I : σ → Prop} (hguard : ∀ s, I s → guard s)
    (hbody : ∀ s s', I s → body s s' → I s') (hI : I s) : ¬ ∃ t, Ends guard body s t := by
  rintro ⟨t, h⟩
  exact h.not_guard (hguard t (h.invariant (fun s s' hs _ hb => hbody s s' hs hb) hI))

/-- **A loop ends in one state** at most, if its body does. -/
theorem Ends.unique (hbody : ∀ s s₁ s₂, body s s₁ → body s s₂ → s₁ = s₂)
    (h : Ends guard body s t) (h' : Ends guard body s t') : t = t' := by
  induction h with
  | exit hg =>
    cases h' with
    | exit => rfl
    | next hg' => exact absurd hg' hg
  | next hg hb _ ih =>
    cases h' with
    | exit hg' => exact absurd hg hg'
    | next _ hb' hrest' => exact ih (hbody _ _ _ hb hb' ▸ hrest')

/-- **A body that always goes on**: the loop ends if the guard fails after some iterations.

**Proof sketch.** Induction on the number of iterations; the loop ends at the first one after which
the guard fails. -/
theorem exists_ends_of_iterate {f : σ → σ} :
    ∀ {n : ℕ} {s : σ}, ¬ guard (f^[n] s) → ∃ t, Ends guard (fun s s' => f s = s') s t
  | 0, s, h => ⟨s, .exit h⟩
  | n + 1, s, h => by
    by_cases hs : guard s
    · obtain ⟨t, ht⟩ := exists_ends_of_iterate (s := f s) h
      exact ⟨t, .next hs rfl ht⟩
    · exact ⟨s, .exit hs⟩

end Loop
