import Mathlib.Data.List.Basic
import Mathlib.Data.List.Induction

/-!
# Logs of lines

A log that is kept as one sequence of symbols, where each record is a line that ends with a
separator. A reader splits the sequence at the separators and skips empty lines. Appending a line to
a log is only safe when the log ends with a separator; a log that has been cut off may not.

## Main results

* `records_append_line`, `take_frame`: what a reader finds behind an append, or a cut.
-/

namespace LineLog

open List

variable {α : Type*} [DecidableEq α] {sep : α} {log line : List α}

def records (sep : α) (log : List α) : List (List α) := (log.splitOn sep).filter fun l => l ≠ []

def Framed (sep : α) (log : List α) : Prop := log = [] ∨ log.getLast? = some sep

instance : Decidable (Framed sep log) := inferInstanceAs (Decidable (_ ∨ _))

def frame (sep : α) (lines : List (List α)) : List α := (lines.map (· ++ [sep])).flatten

omit [DecidableEq α] in
lemma framed_iff : Framed sep log ↔ log = [] ∨ ∃ front, log = front ++ [sep] := by
  unfold Framed
  rw [getLast?_eq_some_iff]

omit [DecidableEq α] in
lemma framed_append_line (log line : List α) : Framed sep (log ++ (line ++ [sep])) := by
  refine framed_iff.mpr (.inr ⟨log ++ line, ?_⟩)
  rw [append_assoc]

@[simp] lemma records_nil : records sep ([] : List α) = [] := by
  simp [records]

lemma records_append_cons (a b : List α) : records sep (a ++ sep :: b) = records sep a ++ records sep b := by
  unfold records
  rw [splitOn_append_cons_self, filter_append]

lemma records_of_not_mem (h : sep ∉ line) (hne : line ≠ []) : records sep line = [line] := by
  unfold records
  rw [splitOn_eq_singleton h, filter_cons_of_pos (by simpa using hne), filter_nil]

lemma records_framed_append (h : Framed sep log) (rest : List α) :
    records sep (log ++ rest) = records sep log ++ records sep rest := by
  rcases framed_iff.mp h with rfl | ⟨front, rfl⟩
  · rw [nil_append, records_nil, nil_append]
  · have hfront : records sep (front ++ [sep]) = records sep front := by
      rw [records_append_cons, records_nil, append_nil]
    rw [hfront, append_assoc, singleton_append, records_append_cons]

lemma records_append_line (h : Framed sep log) (hline : sep ∉ line) (hne : line ≠ []) :
    records sep (log ++ (line ++ [sep])) = records sep log ++ [line] := by
  rw [records_framed_append h, records_append_cons, records_nil, append_nil,
    records_of_not_mem hline hne]

section Frame

variable {lines : List (List α)}

omit [DecidableEq α] in
lemma frame_cons (line : List α) (lines : List (List α)) :
    frame sep (line :: lines) = line ++ [sep] ++ frame sep lines := rfl

omit [DecidableEq α] in
lemma frame_concat (lines : List (List α)) (line : List α) :
    frame sep (lines ++ [line]) = frame sep lines ++ (line ++ [sep]) := by
  simp [frame]

omit [DecidableEq α] in
lemma framed_frame (lines : List (List α)) : Framed sep (frame sep lines) := by
  induction lines using List.reverseRecOn with
  | nil => exact .inl rfl
  | append_singleton lines line _ =>
    rw [frame_concat]
    exact framed_append_line _ _

lemma records_frame (h : ∀ line ∈ lines, sep ∉ line ∧ line ≠ []) :
    records sep (frame sep lines) = lines := by
  induction lines using List.reverseRecOn with
  | nil => exact records_nil
  | append_singleton lines line ih =>
    have hline := h line (by simp)
    rw [frame_concat, records_append_line (framed_frame lines) hline.1 hline.2,
      ih fun l hl => h l (mem_append_left _ hl)]

omit [DecidableEq α] in
/-- **A log that has been cut off** consists of whole records and of a beginning of the next one,
which may be all of it but for the separator.

**Proof sketch.** Induction on the records. The cut is in the first line, with its separator, or
behind it. -/
lemma take_frame : ∀ (lines : List (List α)) (n : Nat), ∃ k torn,
    (frame sep lines).take n = frame sep (lines.take k) ++ torn ∧
      (torn = [] ∨ ∃ line m, lines[k]? = some line ∧ 0 < m ∧ m ≤ line.length ∧ torn = line.take m)
  | [], n => ⟨0, [], by simp [frame], .inl rfl⟩
  | line :: lines, n => by
    by_cases hn : n ≤ line.length
    · refine ⟨0, line.take n, ?_, ?_⟩
      · rw [frame_cons, append_assoc, take_append_of_le_length hn]
        rfl
      · cases n with
        | zero => exact .inl rfl
        | succ n => exact .inr ⟨line, n + 1, rfl, Nat.succ_pos n, hn, rfl⟩
    · obtain ⟨k, torn, htake, htorn⟩ := take_frame lines (n - (line.length + 1))
      refine ⟨k + 1, torn, ?_, ?_⟩
      · have hlength : (line ++ [sep]).length = line.length + 1 := by simp
        rw [frame_cons, take_append, take_of_length_le (by omega), hlength, htake,
          take_succ_cons, frame_cons, append_assoc (line ++ [sep])]
      · simpa using htorn

end Frame

end LineLog
