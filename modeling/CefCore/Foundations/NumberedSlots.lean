import Mathlib.Data.List.Nodup
import Mathlib.Data.List.TakeWhile

/-!
# Slots that are numbered from a moving start

A table of objects that hands out numbers may keep its objects in a list of slots, of which some are
empty, and number the slots from a start that moves when slots are added or dropped in front. The
numbering is then not stored anywhere.

## Main definitions

* `numbered`: the list of the objects with their numbers. The operations on the slots are operations
  on that list.
-/

namespace Slots

open List Option

variable {α : Type*}

/-- The objects in the slots with their numbers, when the first slot has number `i`. -/
def numbered : Int → List (Option α) → List (Int × α)
  | _, [] => []
  | i, none :: slots => numbered (i + 1) slots
  | i, some a :: slots => (i, a) :: numbered (i + 1) slots

@[simp] lemma numbered_nil (i : Int) : numbered i ([] : List (Option α)) = [] := rfl

@[simp] lemma numbered_none (i : Int) (slots : List (Option α)) :
    numbered i (none :: slots) = numbered (i + 1) slots := rfl

@[simp] lemma numbered_some (i : Int) (a : α) (slots : List (Option α)) :
    numbered i (some a :: slots) = (i, a) :: numbered (i + 1) slots := rfl

lemma mem_numbered {k : Int} {a : α} : ∀ {slots : List (Option α)} {i : Int},
    (k, a) ∈ numbered i slots ↔ ∃ n : Nat, k = i + n ∧ slots[n]? = some (some a)
  | [], i => by simp
  | slot :: slots, i => by
    have hrest : (k, a) ∈ numbered (i + 1) slots ↔
        ∃ n : Nat, k = i + (n + 1 : Nat) ∧ (slot :: slots)[n + 1]? = some (some a) := by
      rw [mem_numbered]
      refine exists_congr fun n => and_congr_left fun _ => ?_
      omega
    cases slot with
    | none =>
      rw [numbered_none, hrest]
      constructor
      · rintro ⟨n, hk, hn⟩
        exact ⟨n + 1, hk, hn⟩
      · rintro ⟨n, hk, hn⟩
        cases n with
        | zero => simp at hn
        | succ n => exact ⟨n, hk, hn⟩
    | some b =>
      rw [numbered_some, mem_cons, hrest]
      constructor
      · rintro (heq | ⟨n, hk, hn⟩)
        · cases heq
          exact ⟨0, by simp, rfl⟩
        · exact ⟨n + 1, hk, hn⟩
      · rintro ⟨n, hk, hn⟩
        cases n with
        | zero =>
          left
          simp only [getElem?_cons_zero, some.injEq] at hn
          rw [hk, hn]
          simp
        | succ n => exact .inr ⟨n, hk, hn⟩

variable {slots : List (Option α)}

lemma le_of_mem_numbered {i : Int} {e : Int × α} (h : e ∈ numbered i slots) : i ≤ e.1 := by
  obtain ⟨n, hk, -⟩ := mem_numbered.mp h
  omega

lemma numbered_pairwise : ∀ (i : Int) (slots : List (Option α)),
    (numbered i slots).Pairwise fun e e' => e.1 < e'.1
  | _, [] => List.Pairwise.nil
  | i, none :: slots => numbered_pairwise (i + 1) slots
  | i, some a :: slots => by
    refine pairwise_cons.mpr ⟨fun e he => ?_, numbered_pairwise (i + 1) slots⟩
    have := le_of_mem_numbered he
    exact Int.lt_of_add_one_le this

lemma nodup_numbered (i : Int) (slots : List (Option α)) :
    ((numbered i slots).map Prod.fst).Nodup := by
  rw [List.Nodup, pairwise_map]
  exact (numbered_pairwise i slots).imp Int.ne_of_lt

lemma numbered_append : ∀ (i : Int) (slots slots' : List (Option α)),
    numbered i (slots ++ slots') = numbered i slots ++ numbered (i + slots.length) slots'
  | i, [], slots' => by simp
  | i, slot :: slots, slots' => by
    have hlen : i + ((slots.length + 1 : Nat) : Int) = i + 1 + slots.length := by omega
    rw [cons_append, length_cons, hlen]
    cases slot with
    | none => exact numbered_append (i + 1) slots slots'
    | some a => exact congrArg ((i, a) :: ·) (numbered_append (i + 1) slots slots')

lemma numbered_concat (i : Int) (slots : List (Option α)) (a : α) :
    numbered i (slots ++ [some a]) = numbered i slots ++ [(i + slots.length, a)] := by
  rw [numbered_append]
  rfl

lemma numbered_set_none : ∀ (i : Int) (slots : List (Option α)) (n : Nat),
    numbered i (slots.set n none) = (numbered i slots).filter fun e => e.1 ≠ i + n
  | _, [], _ => rfl
  | i, slot :: slots, 0 => by
    have hrest : (numbered (i + 1) slots).filter (fun e => e.1 ≠ i + (0 : Nat)) =
        numbered (i + 1) slots := by
      refine filter_eq_self.mpr fun e he => ?_
      have := le_of_mem_numbered he
      simp only [decide_eq_true_eq, ne_eq]
      omega
    rw [set_cons_zero, numbered_none]
    cases slot with
    | none => exact hrest.symm
    | some a =>
      rw [numbered_some, filter_cons_of_neg (by simp)]
      exact hrest.symm
  | i, slot :: slots, n + 1 => by
    have hnum : i + ((n + 1 : Nat) : Int) = i + 1 + n := by omega
    rw [set_cons_succ, hnum]
    cases slot with
    | none => exact numbered_set_none (i + 1) slots n
    | some a =>
      rw [numbered_some, numbered_some, filter_cons_of_pos, numbered_set_none]
      simp only [decide_eq_true_eq, ne_eq]
      omega

/-! ### Empty slots at the ends -/

section

variable (slots : List (Option α))

def Tight : Prop :=
  slots.head? ≠ some none ∧ slots.getLast? ≠ some none

def trimFront : List (Option α) := slots.dropWhile (·.isNone)

def trimBack : List (Option α) :=
  (slots.reverse.dropWhile (·.isNone)).reverse

lemma drop_length_takeWhile : slots.drop (slots.takeWhile (·.isNone)).length = trimFront slots := by
  have hsplit := takeWhile_append_dropWhile (p := (·.isNone)) (l := slots)
  have hdrop : (slots.takeWhile (·.isNone) ++ trimFront slots).drop
      (slots.takeWhile (·.isNone)).length = trimFront slots := drop_left
  rwa [trimFront, hsplit] at hdrop

end

lemma numbered_trimFront : ∀ (i : Int) (slots : List (Option α)),
    numbered (i + (slots.takeWhile (·.isNone)).length) (trimFront slots) = numbered i slots
  | i, [] => by simp [trimFront]
  | i, none :: slots => by
    have h := numbered_trimFront (i + 1) slots
    simp only [trimFront, takeWhile_cons, dropWhile_cons, isNone_none, if_true,
      length_cons, numbered_none] at h ⊢
    rw [← h]
    congr 1
    omega
  | i, some a :: slots => by simp [trimFront]

lemma trimBack_append (slots : List (Option α)) :
    ∃ n, slots = trimBack slots ++ List.replicate n none := by
  refine ⟨(slots.reverse.takeWhile (·.isNone)).length, ?_⟩
  have hnone : slots.reverse.takeWhile (·.isNone) =
      List.replicate (slots.reverse.takeWhile (·.isNone)).length none := by
    refine eq_replicate_iff.mpr ⟨rfl, fun x hx => ?_⟩
    exact isNone_iff_eq_none.mp (mem_takeWhile_imp hx)
  have hsplit := takeWhile_append_dropWhile (p := (·.isNone)) (l := slots.reverse)
  rw [hnone] at hsplit
  have hrev := congrArg List.reverse hsplit
  rw [reverse_append, reverse_reverse, reverse_replicate] at hrev
  exact hrev.symm

lemma numbered_replicate_none : ∀ (n : Nat) (i : Int),
    numbered i (List.replicate n (none : Option α)) = []
  | 0, _ => rfl
  | n + 1, i => numbered_replicate_none n (i + 1)

lemma numbered_trimBack (i : Int) (slots : List (Option α)) :
    numbered i (trimBack slots) = numbered i slots := by
  obtain ⟨n, hn⟩ := trimBack_append slots
  conv_rhs => rw [hn]
  rw [numbered_append, numbered_replicate_none, append_nil]

lemma tight_nil : Tight ([] : List (Option α)) := ⟨by simp, by simp⟩

lemma head?_dropWhile_isNone : ∀ (slots : List (Option α)),
    (slots.dropWhile (·.isNone)).head? ≠ some none
  | [] => by simp
  | none :: slots => head?_dropWhile_isNone slots
  | some a :: slots => by simp

lemma getLast?_trimBack (slots : List (Option α)) : (trimBack slots).getLast? ≠ some none := by
  rw [trimBack, getLast?_reverse]
  exact head?_dropWhile_isNone slots.reverse

lemma head?_trimBack (h : slots.head? ≠ some none) : (trimBack slots).head? ≠ some none := by
  obtain ⟨n, hn⟩ := trimBack_append slots
  intro hhead
  rw [hn, head?_append, hhead] at h
  exact h rfl

lemma tight_trim (slots : List (Option α)) : Tight (trimBack (trimFront slots)) :=
  ⟨head?_trimBack (head?_dropWhile_isNone slots), getLast?_trimBack _⟩

lemma Tight.cons (h : Tight slots) (a : α) : Tight (some a :: slots) := by
  refine ⟨by simp, ?_⟩
  cases slots with
  | nil => simp
  | cons slot slots => simpa [getLast?_cons_cons] using h.2

lemma Tight.concat (h : Tight slots) (a : α) : Tight (slots ++ [some a]) := by
  refine ⟨?_, by simp⟩
  cases slots with
  | nil => simp
  | cons slot slots => simpa using h.1

end Slots
