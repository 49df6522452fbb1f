import Mathlib.Data.List.Induction

/-!
# Copies made of a snapshot and a log

A list that is kept in one place has copies in others. A copy starts with a snapshot of the list and
goes on with a log of the changes. A change strikes elements out and puts others behind the rest. The
log of a copy may begin before its snapshot, so that the copy makes some changes once more, and a
change of a copy may strike out more than that of the list.

## Main results

* `Change.Sound`, `Change.Complete` — what a copy will have is in the list, and the other way around.
* `Change.Sound.snapshot`, `Change.Complete.snapshot` — a snapshot may be taken at any time.
-/

/-- A change of a list. -/
structure Change (α : Type*) where
  strikes : α → Bool
  adds : List α

namespace Change

open List

variable {α : Type*} {x : α} {l l' base : List α} {c : Change α} {log : List (Change α)}

def apply (c : Change α) (l : List α) : List α :=
  l.filter (fun x => !c.strikes x) ++ c.adds

/-- A log is replayed from its front. -/
def replay (l : List α) (log : List (Change α)) : List α :=
  log.foldl (fun l c => c.apply l) l

lemma mem_apply : x ∈ c.apply l ↔ (x ∈ l ∧ c.strikes x = false) ∨ x ∈ c.adds := by
  simp [apply]

lemma replay_concat : replay l (log ++ [c]) = c.apply (replay l log) := by
  simp [replay]

/-- An element is there at the end if no change strikes it out, or if the log adds it. -/
lemma mem_replay :
    x ∈ replay l log ↔ (x ∈ l ∧ ∀ c ∈ log, c.strikes x = false) ∨ x ∈ replay [] log := by
  induction log generalizing l with
  | nil => simp [replay]
  | cons c log ih =>
    have hl : x ∈ replay l (c :: log) ↔ _ := ih (l := c.apply l)
    have hnil : x ∈ replay [] (c :: log) ↔ _ := ih (l := c.apply [])
    rw [hl, hnil, mem_apply, mem_apply]
    simp only [mem_cons, forall_eq_or_imp, not_mem_nil, false_and, false_or]
    tauto

lemma exists_adds (h : x ∈ replay [] log) : ∃ c ∈ log, x ∈ c.adds := by
  induction log using List.reverseRecOn with
  | nil => simp [replay] at h
  | append_singleton log c ih =>
    rw [replay_concat, mem_apply] at h
    rcases h with ⟨h, -⟩ | h
    · obtain ⟨d, hd, hx⟩ := ih h
      exact ⟨d, mem_append_left _ hd, hx⟩
    · exact ⟨c, by simp, h⟩

/-- What a copy has at the end of its log is in the list. -/
def Sound (l base : List α) (log : List (Change α)) : Prop :=
  ∀ x ∈ replay base log, x ∈ l

/-- What is in the list is in a copy at the end of its log. -/
def Complete (l base : List α) (log : List (Change α)) : Prop :=
  ∀ x ∈ l, x ∈ replay base log

/-- An element of a sound copy that is not in the list is going to be struck out. -/
lemma Sound.mem (h : Sound l base log) (hx : x ∈ base) : x ∈ l ∨ ∃ c ∈ log, c.strikes x = true := by
  by_cases hall : ∀ c ∈ log, c.strikes x = false
  · exact .inl (h x (mem_replay.mpr (.inl ⟨hx, hall⟩)))
  · right
    simpa using hall

/-- An element that is missing in a complete copy is going to be added. -/
lemma Complete.mem (h : Complete l base log) (hx : x ∈ l) : x ∈ base ∨ ∃ c ∈ log, x ∈ c.adds := by
  rcases mem_replay.mp (h x hx) with ⟨hbase, -⟩ | hadds
  · exact .inl hbase
  · exact .inr (exists_adds hadds)

lemma Sound.change (h : Sound l base log) (hl : ∀ x ∈ l, c.strikes x = false → x ∈ l')
    (hadds : ∀ x ∈ c.adds, x ∈ l') : Sound l' base (log ++ [c]) := by
  intro x hx
  rw [replay_concat, mem_apply] at hx
  rcases hx with ⟨hx, hstrikes⟩ | hx
  · exact hl x (h x hx) hstrikes
  · exact hadds x hx

lemma Complete.change (h : Complete l base log)
    (hl : ∀ x ∈ l', (x ∈ l ∧ c.strikes x = false) ∨ x ∈ c.adds) :
    Complete l' base (log ++ [c]) := by
  intro x hx
  rw [replay_concat, mem_apply]
  exact (hl x hx).imp_left fun hx => ⟨h x hx.1, hx.2⟩

lemma Sound.snapshot (h : Sound l [] log) : Sound l l log := fun x hx =>
  (mem_replay.mp hx).elim And.left (h x)

/-- The snapshot that is still to be taken changes with the list. -/
lemma Complete.snapshot (h : Complete l l log)
    (hl : ∀ x ∈ l', (x ∈ l ∧ c.strikes x = false) ∨ x ∈ c.adds) :
    Complete l' l' (log ++ [c]) := by
  intro x hx
  rw [replay_concat, mem_apply]
  refine (hl x hx).imp_left fun hl => ⟨?_, hl.2⟩
  exact mem_replay.mpr ((mem_replay.mp (h x hl.1)).imp_left fun h => ⟨hx, h.2⟩)

end Change
