import CefCore.Browser.StateJournalCompaction

/-!
# Initializing a journal object again

A `CefStateJournal` that has been closed can be initialized with another file, or with the same one.
`Initialize` replays the file if there is one, and `ReplayJournal` resets the object behind the test
for an empty file. What the object held before is therefore still there if the new file is missing or
empty.

## Main results

* `initializesExactly_iff`: when only the contents of the file are there.
-/

namespace CefCore.Browser.JournalWorld

variable {codec : JsonCodec} {w : JournalWorld} {path : String} {answer : SystemAnswer}

/-- What replaying a file alone yields. A file that is missing or that cannot be read yields
nothing. -/
def replayed (codec : JsonCodec) (disk : Disk) (path : String) (answer : SystemAnswer) :
    JsonDict × Nat :=
  if answer.readOk then replayContents codec ((disk path).getD []) else ([], 0)

/-- What callers see of the state of an object. -/
def held (w : JournalWorld) : JsonDict × Nat := (w.getAll, w.getPendingOperationCount)

/-- A successful `Initialize` makes the object hold what replaying the file alone yields. -/
def InitializesExactly (codec : JsonCodec) (w : JournalWorld) (path : String)
    (answer : SystemAnswer) : Prop :=
  (w.initializeAt codec path answer).1 = true →
    (w.initializeAt codec path answer).2.held = replayed codec w.disk path answer

def HasContents (disk : Disk) (path : String) (answer : SystemAnswer) : Prop :=
  ∃ contents, disk path = some contents ∧ (answer.readOk = true → contents ≠ [])

lemma replayed_of_not_hasContents (h : ¬ HasContents w.disk path answer) :
    replayed codec w.disk path answer = ([], 0) := by
  unfold replayed
  split
  · cases hfile : w.disk path with
    | none => rfl
    | some contents =>
      have hempty : contents = [] := by
        by_contra hne
        exact h ⟨contents, hfile, fun _ => hne⟩
      rw [hempty]
      rfl
  · rfl

lemma held_initializeAt_of_hasContents (hclosed : w.journal.isOpen = false)
    (h : HasContents w.disk path answer) :
    (w.initializeAt codec path answer).2.held = replayed codec w.disk path answer := by
  obtain ⟨contents, hfile, hne⟩ := h
  unfold initializeAt replayed
  rw [hclosed, hfile]
  cases hread : answer.readOk with
  | false => rfl
  | true =>
    cases contents with
    | nil => exact absurd rfl (hne hread)
    | cons b contents => rfl

lemma held_initializeAt_of_not_hasContents (hclosed : w.journal.isOpen = false)
    (h : ¬ HasContents w.disk path answer) :
    (w.initializeAt codec path answer).2.held = w.held := by
  unfold initializeAt
  rw [hclosed]
  cases hfile : w.disk path with
  | none => rfl
  | some contents =>
    have hread : answer.readOk = true ∧ contents = [] := by
      by_contra hnot
      exact h ⟨contents, hfile, fun hok hnil => hnot ⟨hok, hnil⟩⟩
    rw [hread.1, hread.2]
    rfl

/-- **When `Initialize` is exact**: if the object is open, so that the call fails, if there is a file
with contents, or if the object held nothing before. -/
theorem initializesExactly_iff (codec : JsonCodec) (w : JournalWorld) (path : String)
    (answer : SystemAnswer) : InitializesExactly codec w path answer ↔
      w.journal.isOpen = true ∨ HasContents w.disk path answer ∨ w.held = ([], 0) := by
  unfold InitializesExactly
  cases hopen : w.journal.isOpen with
  | true => simp [initializeAt, hopen]
  | false =>
    have hsuccess : (w.initializeAt codec path answer).1 = true := by
      unfold initializeAt
      rw [hopen]
      rfl
    simp only [hsuccess, forall_const, Bool.false_eq_true, false_or]
    by_cases h : HasContents w.disk path answer
    · exact iff_of_true (held_initializeAt_of_hasContents hopen h) (.inl h)
    · rw [held_initializeAt_of_not_hasContents hopen h, replayed_of_not_hasContents h]
      exact (or_iff_right h).symm

/-- An object is used with one file, closed, and initialized with another one. -/
def reopenedCalls : List (JournalCall × SystemAnswer) :=
  [(.initializeAt "a.journal", {}), (.set "a" (stringValue "x"), {}), (.close, {})]

/-- The dictionary of the first file is still there if there is no second one. -/
theorem reopened_keeps_state :
    ¬ InitializesExactly sampleCodec ((start fun _ => none).run sampleCodec reopenedCalls)
      "b.journal" {} := by
  intro h
  have hheld := congrArg Prod.snd (h rfl)
  revert hheld
  decide +kernel

end CefCore.Browser.JournalWorld
