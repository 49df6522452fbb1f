import CefCore.Foundations.Run

/-!
# Machines in lockstep

A machine answers calls, one after another, and may fail to answer. A specification answers them all.
The machine agrees with the specification on a run if it gives the same answers and its last state
belongs to that of the specification.

## Main results

* `agrees_iff`: they agree on all runs if they do in each step.
-/

namespace Lockstep

open Option

variable {α β σ τ : Type*}

def answers (spec : σ → α → β × σ) : σ → List α → List β × σ
  | s, [] => ([], s)
  | s, a :: as => ((spec s a).1 :: (answers spec (spec s a).2 as).1, (answers spec (spec s a).2 as).2)

/-- The answers of a machine, and its last state, unless it fails. -/
def run (step : τ → α → Option (β × τ)) : τ → List α → Option (List β × τ)
  | t, [] => some ([], t)
  | t, a :: as => (step t a).bind fun (b, t') => (run step t' as).map fun (bs, t'') => (b :: bs, t'')

/-- The machine answers as the specification does, and ends in a state that belongs to its last one. -/
def Agrees (spec : σ → α → β × σ) (step : τ → α → Option (β × τ)) (R : σ → τ → Prop) (s : σ) (t : τ)
    (as : List α) : Prop :=
  ∃ t', run step t as = some ((answers spec s as).1, t') ∧ R (answers spec s as).2 t'

/-- The states that the specification goes through. -/
def next (spec : σ → α → β × σ) (s : σ) (a : α) : Option σ := some (spec s a).2

variable {spec : σ → α → β × σ} {step : τ → α → Option (β × τ)} {R : σ → τ → Prop}
  {P : σ → α → Prop}

/-- **Agreement call by call**: the machine answers a call as the specification does, and stays with it,
exactly if the call meets a condition.

**Proof sketch.** Induction on the calls. -/
theorem agrees_iff
    (hkeep : ∀ s t a, R s t → P s a → ∃ t', step t a = some ((spec s a).1, t') ∧ R (spec s a).2 t')
    (hbreak : ∀ s t a, R s t → ¬ P s a → ∀ t', step t a ≠ some ((spec s a).1, t')) :
    ∀ (as : List α) (s : σ) (t : τ), R s t →
      (Agrees spec step R s t as ↔ Transition.Along (next spec) P s as)
  | [], s, t, hR => iff_of_true ⟨t, rfl, hR⟩ trivial
  | a :: as, s, t, hR => by
    by_cases hP : P s a
    · obtain ⟨t', hstep, hR'⟩ := hkeep s t a hR hP
      have ih := agrees_iff hkeep hbreak as (spec s a).2 t' hR'
      refine Iff.trans ?_ (ih.trans (and_iff_right hP).symm)
      unfold Agrees
      simp only [run, hstep, answers, bind_some, map_eq_some_iff, Prod.mk.injEq,
        List.cons.injEq, Prod.exists, true_and]
      constructor
      · rintro ⟨t'', ⟨bs, t₁, hrun, rfl, rfl⟩, hend⟩
        exact ⟨t₁, hrun, hend⟩
      · rintro ⟨t'', hrun, hend⟩
        exact ⟨t'', ⟨_, t'', hrun, rfl, rfl⟩, hend⟩
    · refine iff_of_false ?_ fun hAlong => hP hAlong.1
      rintro ⟨t'', hrun, _⟩
      cases hstep : step t a with
      | none =>
        rw [run, hstep] at hrun
        cases hrun
      | some r =>
        obtain ⟨b, t'⟩ := r
        simp only [run, hstep, answers, bind_some, map_eq_some_iff, Prod.mk.injEq,
          List.cons.injEq, Prod.exists] at hrun
        obtain ⟨_, _, _, ⟨rfl, _⟩, _⟩ := hrun
        exact hbreak s t a hR hP t' hstep

end Lockstep
