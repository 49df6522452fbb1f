import Mathlib.Data.List.Basic

/-!
# Walks along a list

A visitor with a state of its own goes along a list, decides something about each element, and may
stop. What it has seen, with its decisions, is the outcome of the walk.

## Main results

* `walk_append`: a walk along two lists.
-/

namespace Walk

open List

variable {α δ σ : Type} (stops : δ → Bool) (visit : α → σ → δ × σ)

/-- Go along a list. The element at which the visitor stops is the last one that is visited. -/
def walk : List α → σ → List (α × δ) × σ
  | [], s => ([], s)
  | a :: l, s =>
    let (d, s') := visit a s
    if stops d then ([(a, d)], s')
    else
      let (seen, s'') := walk l s'
      ((a, d) :: seen, s'')

def Stopped (seen : List (α × δ)) : Bool := seen.any fun e => stops e.2

variable {stops visit} {a : α} {l l' : List α} {s : σ}

lemma walk_nil (s : σ) : walk stops visit [] s = ([], s) := rfl

lemma walk_cons (a : α) (l : List α) (s : σ) : walk stops visit (a :: l) s =
    if stops (visit a s).1 then ([(a, (visit a s).1)], (visit a s).2)
    else ((a, (visit a s).1) :: (walk stops visit l (visit a s).2).1,
      (walk stops visit l (visit a s).2).2) := rfl

lemma walk_cons_of_stops (h : stops (visit a s).1 = true) (l : List α) :
    walk stops visit (a :: l) s = ([(a, (visit a s).1)], (visit a s).2) := by
  rw [walk_cons, if_pos h]

lemma walk_cons_of_not_stops (h : stops (visit a s).1 = false) (l : List α) :
    walk stops visit (a :: l) s = ((a, (visit a s).1) :: (walk stops visit l (visit a s).2).1,
      (walk stops visit l (visit a s).2).2) := by
  rw [walk_cons, if_neg (by rw [h]; exact Bool.false_ne_true)]

/-- **A walk along two lists** ends in the first one, or goes on in the second.

**Proof sketch.** Induction on the first list. -/
theorem walk_append (l l' : List α) (s : σ) : walk stops visit (l ++ l') s =
    if Stopped stops (walk stops visit l s).1 then walk stops visit l s
    else ((walk stops visit l s).1 ++ (walk stops visit l' (walk stops visit l s).2).1,
      (walk stops visit l' (walk stops visit l s).2).2) := by
  induction l generalizing s with
  | nil => simp [walk_nil, Stopped]
  | cons a l ih =>
    rw [cons_append]
    cases h : stops (visit a s).1 with
    | true =>
      rw [walk_cons_of_stops h, walk_cons_of_stops h]
      simp [Stopped, h]
    | false =>
      have hstopped : Stopped stops (walk stops visit (a :: l) s).1 =
          Stopped stops (walk stops visit l (visit a s).2).1 := by
        rw [walk_cons_of_not_stops h]
        simp [Stopped, h]
      rw [hstopped, walk_cons_of_not_stops h, walk_cons_of_not_stops h, ih]
      split <;> rfl

/-- **The visited elements** are the first ones of the list. -/
theorem fst_isPrefix (l : List α) (s : σ) : (walk stops visit l s).1.map Prod.fst <+: l := by
  induction l generalizing s with
  | nil => exact nil_prefix
  | cons a l ih =>
    cases h : stops (visit a s).1 with
    | true =>
      rw [walk_cons_of_stops h]
      exact ⟨l, rfl⟩
    | false =>
      rw [walk_cons_of_not_stops h, map_cons]
      exact cons_prefix_cons.mpr ⟨rfl, ih _⟩

theorem not_stops_of_mem_dropLast {e : α × δ} (he : e ∈ (walk stops visit l s).1.dropLast) :
    stops e.2 = false := by
  induction l generalizing s with
  | nil => cases he
  | cons a l ih =>
    cases hd : stops (visit a s).1 with
    | true =>
      rw [walk_cons_of_stops hd] at he
      cases he
    | false =>
      rw [walk_cons_of_not_stops hd] at he
      by_cases hnil : (walk stops visit l (visit a s).2).1 = []
      · rw [hnil] at he
        cases he
      · rw [dropLast_cons_of_ne_nil hnil, mem_cons] at he
        rcases he with rfl | hrest
        · exact hd
        · exact ih hrest

def recorded (visit : α → σ → δ × σ) (a : α) (s : σ × List (α × δ)) : δ × σ × List (α × δ) :=
  ((visit a s.1).1, (visit a s.1).2, s.2 ++ [(a, (visit a s.1).1)])

theorem walk_recorded (l : List α) (s : σ) (record : List (α × δ)) :
    walk stops (recorded visit) l (s, record) = ((walk stops visit l s).1,
      (walk stops visit l s).2, record ++ (walk stops visit l s).1) := by
  induction l generalizing s record with
  | nil => simp [walk_nil]
  | cons a l ih =>
    have hdecision : (recorded visit a (s, record)).1 = (visit a s).1 := rfl
    cases h : stops (visit a s).1 with
    | true =>
      rw [walk_cons_of_stops (hdecision ▸ h), walk_cons_of_stops h]
      rfl
    | false =>
      rw [walk_cons_of_not_stops (hdecision ▸ h), walk_cons_of_not_stops h, recorded, ih,
        append_assoc]
      rfl

end Walk
