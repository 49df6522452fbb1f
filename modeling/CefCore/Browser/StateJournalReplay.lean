import CefCore.Browser.StateJournal

/-!
# Memory and file of the state journal

The dictionary in memory should be what replaying the file gives, also after calls that fail.

## Main results

* `failure_unchanged_iff`: when a call that fails changes neither of them.
-/

namespace CefCore.Browser

open List JournalRecord Function Transition

/-! ### Records that change nothing -/

def JournalRecord.Idle (d : JsonDict) : JournalRecord → Prop
  | set key value => d.find? key = some value
  | delete key => d.find? key = none
  | snapshot data => data = d

lemma JournalRecord.apply_eq_self_iff {d : JsonDict} (r : JournalRecord) :
    r.apply d = d ↔ r.Idle d := by
  cases r with
  | set key value => exact JsonDict.set_eq_self_iff
  | delete key => exact JsonDict.remove_eq_self_iff
  | snapshot data => exact Iff.rfl

/-- The record of a `Set` or `Delete`, and the entry that is written for it. -/
def JournalCall.operation (answer : SystemAnswer) : JournalCall → Option (JournalRecord × JsonDict)
  | set key value => some (.set key value, setEntry key value answer.now)
  | delete key => some (.delete key, deleteEntry key answer.now)
  | _ => none

lemma JournalCall.ofEntry_operation {c : JournalCall} {answer : SystemAnswer} {r : JournalRecord}
    {entry : JsonDict} (h : c.operation answer = some (r, entry)) :
    JournalRecord.ofEntry entry = some r ∧ r.IsSnapshot = false := by
  cases c with
  | set key value =>
    cases h
    exact ⟨ofEntry_setEntry _ _ _, rfl⟩
  | delete key =>
    cases h
    exact ⟨ofEntry_deleteEntry _ _, rfl⟩
  | _ => exact absurd h (by simp [operation])

namespace JournalWorld

variable {codec : JsonCodec} {w : JournalWorld} {answer : SystemAnswer}

/-! ### Files -/

def Replays (codec : JsonCodec) (w : JournalWorld) : Prop :=
  replayContents codec w.contents = (w.journal.state, w.journal.pendingOps)

section

variable (w : JournalWorld)

def recorded (r : JournalRecord) : JournalWorld :=
  { w with journal := { w.journal with state := r.apply w.journal.state } }

def appended (line : Bytes) : JournalWorld :=
  { w with
    journal := { w.journal with pendingOps := w.journal.pendingOps + 1 }
    disk := Function.update w.disk w.journal.journalPath (some (w.contents ++ (line ++ [newline]))) }

@[simp] lemma contents_recorded (r : JournalRecord) :
    (w.recorded r).contents = w.contents := rfl

@[simp] lemma contents_appended (line : Bytes) :
    (w.appended line).contents = w.contents ++ (line ++ [newline]) := by
  simp [contents, appended]

lemma tmpPath_ne : w.journal.journalPath ≠ w.tmpPath := by
  intro h
  have := congrArg String.length h
  simp [tmpPath] at this

end

/-- The operation is refused: its entry has no text, or the append fails. -/
def Refused (codec : JsonCodec) (entry : JsonDict) (answer : SystemAnswer) : Prop :=
  buildLine codec entry = [] ∨ answer.appendOk = false

def Compacts (codec : JsonCodec) (state : JsonDict) (answer : SystemAnswer) : Prop :=
  buildLine codec (snapshotEntry state answer.snapshotNow) ≠ [] ∧ answer.writeOk = true ∧
    answer.moveOk = true

lemma writeCompactedSnapshot_of (h : Compacts codec w.journal.state answer) :
    (w.writeCompactedSnapshot codec answer).2.contents =
        buildLine codec (snapshotEntry w.journal.state answer.snapshotNow) ++ [newline] ∧
      (w.writeCompactedSnapshot codec answer).2.journal = { w.journal with pendingOps := 0 } := by
  obtain ⟨hline, hwrite, hmove⟩ := h
  unfold writeCompactedSnapshot
  simp [hline, hwrite, hmove, contents, update_of_ne w.tmpPath_ne]

lemma writeCompactedSnapshot_of_not (h : ¬ Compacts codec w.journal.state answer) :
    (w.writeCompactedSnapshot codec answer).2.contents = w.contents ∧
      (w.writeCompactedSnapshot codec answer).2.journal = w.journal := by
  unfold writeCompactedSnapshot
  by_cases hline : buildLine codec (snapshotEntry w.journal.state answer.snapshotNow) = []
  · simp [hline]
  · by_cases hwrite : answer.writeOk = true
    · have hmove : answer.moveOk = false :=
        Bool.eq_false_iff.mpr fun hmove => h ⟨hline, hwrite, hmove⟩
      cases hdelete : answer.deleteOk <;>
        simp [hline, hwrite, hmove, contents, update_of_ne w.tmpPath_ne]
    · simp [hline, hwrite, contents, update_of_ne w.tmpPath_ne]

lemma writeCompactedSnapshot_compactions (answer : SystemAnswer) :
    ∀ c ∈ (w.writeCompactedSnapshot codec answer).2.compactions, c ∈ w.compactions ∨
      c.1 = w.disk ∧ ∀ d ∈ c.2, d w.journal.journalPath = w.disk w.journal.journalPath ∨
        Compacts codec w.journal.state answer ∧ d w.journal.journalPath = some
          (buildLine codec (snapshotEntry w.journal.state answer.snapshotNow) ++ [newline]) := by
  unfold writeCompactedSnapshot Compacts
  by_cases hline : buildLine codec (snapshotEntry w.journal.state answer.snapshotNow) = []
  · simp only [hline, if_true]
    exact fun c hc => .inl hc
  · cases hwrite : answer.writeOk with
    | false =>
      simp only [hline, if_false, Bool.not_false, if_true]
      intro c hc
      rcases mem_cons.mp hc with rfl | hc
      · simp [update_of_ne w.tmpPath_ne]
      · exact .inl hc
    | true =>
      cases hmove : answer.moveOk with
      | false =>
        simp only [hline, if_false, Bool.not_true, Bool.not_false, if_true, Bool.false_eq_true]
        intro c hc
        rcases mem_cons.mp hc with rfl | hc
        · cases answer.deleteOk <;> simp [update_of_ne w.tmpPath_ne]
        · exact .inl hc
      | true =>
        simp only [hline, if_false, Bool.not_true, Bool.false_eq_true]
        intro c hc
        rcases mem_cons.mp hc with rfl | hc
        · simp [hline, update_of_ne w.tmpPath_ne]
        · exact .inl hc

lemma recordsOf_snapshot (h : Compacts codec w.journal.state answer) :
    recordsOf codec (buildLine codec (snapshotEntry w.journal.state answer.snapshotNow) ++ [newline]) =
      [.snapshot w.journal.state] := by
  have happend := recordsOf_append_line (.inl rfl)
    (ofEntry_snapshotEntry w.journal.state answer.snapshotNow) h.1
  have hempty : recordsOf codec [] = [] := by simp [recordsOf]
  simpa [hempty] using happend

lemma replays_of_compacts (h : Compacts codec w.journal.state answer) :
    (w.writeCompactedSnapshot codec answer).2.Replays codec := by
  obtain ⟨hcontents, hjournal⟩ := writeCompactedSnapshot_of h
  unfold Replays
  rw [hcontents, hjournal, replayContents_eq, recordsOf_snapshot h]
  rfl

lemma Replays.writeCompactedSnapshot (h : w.Replays codec) (answer : SystemAnswer) :
    (w.writeCompactedSnapshot codec answer).2.Replays codec := by
  by_cases hcompacts : Compacts codec w.journal.state answer
  · exact replays_of_compacts hcompacts
  · obtain ⟨hcontents, hjournal⟩ := writeCompactedSnapshot_of_not hcompacts
    unfold Replays
    rw [hcontents, hjournal]
    exact h

/-! ### Operations -/

lemma finishOperation_eq (w : JournalWorld) (entry : JsonDict) (answer : SystemAnswer) :
    (Refused codec entry answer →
      w.finishOperation codec (buildLine codec entry) answer = (false, w)) ∧
    (¬ Refused codec entry answer →
      w.finishOperation codec (buildLine codec entry) answer =
        (true, if w.journal.compactionThreshold ≤ w.journal.pendingOps + 1 then
          ((w.appended (buildLine codec entry)).writeCompactedSnapshot codec answer).2
        else w.appended (buildLine codec entry))) := by
  unfold Refused finishOperation appendLine
  by_cases hline : buildLine codec entry = []
  · simp [hline]
  · cases hdisk : w.disk w.journal.journalPath <;> cases hok : answer.appendOk <;>
      simp [hline, appended, contents, hdisk] <;> split <;> rfl

lemma call_operation {c : JournalCall} {r : JournalRecord} {entry : JsonDict}
    (h : c.operation answer = some (r, entry)) : w.call codec answer c =
      if w.journal.isOpen then
        (w.recorded r).finishOperation codec (buildLine codec entry) answer
      else (false, w) := by
  cases c with
  | set key value =>
    cases h
    cases hopen : w.journal.isOpen <;> simp [call, JournalWorld.set, hopen, recorded,
      JournalRecord.apply]
  | delete key =>
    cases h
    cases hopen : w.journal.isOpen <;> simp [call, JournalWorld.delete, hopen, recorded,
      JournalRecord.apply]
  | _ => exact absurd h (by simp [JournalCall.operation])

/-- **An operation that is not refused** keeps file and memory together, if the file ends with a
line or the operation compacts it. -/
lemma Replays.finishOperation (h : w.Replays codec) {r : JournalRecord} {entry : JsonDict}
    (hentry : JournalRecord.ofEntry entry = some r) (hr : r.IsSnapshot = false)
    (haccepted : ¬ Refused codec entry answer) (hframed : LineLog.Framed newline w.contents ∨
      w.journal.compactionThreshold ≤ w.journal.pendingOps + 1 ∧
        Compacts codec (r.apply w.journal.state) answer) :
    ((w.recorded r).finishOperation codec (buildLine codec entry) answer).2.Replays codec := by
  have hline : buildLine codec entry ≠ [] := fun h => haccepted (.inl h)
  rw [(finishOperation_eq (w.recorded r) entry answer).2 haccepted]
  rcases hframed with hframed | ⟨hthreshold, hcompacts⟩
  · have happended : ((w.recorded r).appended (buildLine codec entry)).Replays codec := by
      have hold := h
      unfold Replays at hold ⊢
      rw [replayContents_eq] at hold
      obtain ⟨hstate, hpending⟩ := Prod.mk.inj hold
      rw [replayContents_eq, contents_appended, contents_recorded,
        recordsOf_append_line hframed hentry hline, meaning_concat,
        sinceSnapshot_concat, hr, hstate, hpending]
      rfl
    split
    · exact happended.writeCompactedSnapshot answer
    · exact happended
  · have hthreshold' : (w.recorded r).journal.compactionThreshold ≤
        (w.recorded r).journal.pendingOps + 1 := hthreshold
    rw [if_pos hthreshold']
    exact replays_of_compacts hcompacts

/-! ### Operations that fail -/

/-- A `Set` or `Delete` that returns `false` leaves the dictionary and the number of pending
operations as they were. -/
def FailureUnchanged (codec : JsonCodec) (w : JournalWorld) (c : JournalCall × SystemAnswer) : Prop :=
  (c.1.operation c.2).isSome = true → (w.call codec c.2 c.1).1 = false →
    (w.call codec c.2 c.1).2.getAll = w.getAll ∧
      (w.call codec c.2 c.1).2.getPendingOperationCount = w.getPendingOperationCount

/-- An operation is refused only if the journal is closed or its record changes nothing. -/
def FailureHarmless (codec : JsonCodec) (w : JournalWorld) (c : JournalCall × SystemAnswer) : Prop :=
  ∀ r entry, c.1.operation c.2 = some (r, entry) → w.journal.isOpen = true →
    Refused codec entry c.2 → r.Idle w.journal.state

/-- A line is appended only to a file that ends with a line, unless the operation compacts it. -/
def AppendsFramed (codec : JsonCodec) (w : JournalWorld) (c : JournalCall × SystemAnswer) : Prop :=
  ∀ r entry, c.1.operation c.2 = some (r, entry) → w.journal.isOpen = true →
    ¬ Refused codec entry c.2 → LineLog.Framed newline w.contents ∨
      w.journal.compactionThreshold ≤ w.journal.pendingOps + 1 ∧
        Compacts codec (r.apply w.journal.state) c.2

/-- An object is initialized with a missing or an empty file only if it holds nothing, and with a
file that cannot be read only if there is nothing in it. -/
def InitializesFresh (codec : JsonCodec) (w : JournalWorld) (c : JournalCall × SystemAnswer) : Prop :=
  ∀ path, c.1 = .initializeAt path → w.journal.isOpen = false →
    match w.disk path with
    | none => w.journal.state = [] ∧ w.journal.pendingOps = 0
    | some contents =>
      if c.2.readOk then contents = [] → w.journal.state = [] ∧ w.journal.pendingOps = 0
      else replayContents codec contents = ([], 0)

lemma failureUnchanged_iff (w : JournalWorld) (c : JournalCall × SystemAnswer) :
    w.FailureUnchanged codec c ↔ w.FailureHarmless codec c := by
  unfold FailureUnchanged FailureHarmless
  cases hc : c.1.operation c.2 with
  | none => simp
  | some p =>
    obtain ⟨r, entry⟩ := p
    rw [call_operation hc]
    cases hopen : w.journal.isOpen with
    | false => simp
    | true =>
      by_cases hrefused : Refused codec entry c.2
      · rw [if_pos rfl, (finishOperation_eq (w.recorded r) entry c.2).1 hrefused]
        have hidle := r.apply_eq_self_iff (d := w.journal.state)
        simp only [Option.isSome_some, forall_const, getAll, getPendingOperationCount, recorded,
          and_true, hidle]
        constructor
        · rintro h r' entry' heq -
          cases heq
          exact h
        · exact fun h => h r entry rfl hrefused
      · rw [if_pos rfl, (finishOperation_eq (w.recorded r) entry c.2).2 hrefused]
        refine ⟨?_, fun _ _ hfailed => absurd hfailed (by simp)⟩
        rintro - r' entry' heq - hrefused'
        cases heq
        exact absurd hrefused' hrefused

/-- Dictionary and number of pending operations after `Initialize`. -/
def loaded (codec : JsonCodec) (w : JournalWorld) (path : String) (answer : SystemAnswer) :
    JsonDict × Nat :=
  match w.disk path with
  | none => (w.journal.state, w.journal.pendingOps)
  | some contents =>
    if !answer.readOk then ([], 0)
    -- an empty file leaves what is there
    else if contents = [] then (w.journal.state, w.journal.pendingOps)
    else replayContents codec contents

lemma initializeAt_of_closed (h : w.journal.isOpen = false) (path : String) (answer : SystemAnswer) :
    w.initializeAt codec path answer = (true, { w with journal :=
      ⟨path, true, (w.loaded codec path answer).1, (w.loaded codec path answer).2,
        w.journal.compactionThreshold⟩ }) := by
  unfold initializeAt loaded
  rw [h]
  cases w.disk path with
  | none => rfl
  | some contents =>
    cases answer.readOk with
    | false => rfl
    | true => cases contents <;> rfl

lemma replays_initializeAt {path : String} (h : w.InitializesFresh codec (.initializeAt path, answer))
    (hclosed : w.journal.isOpen = false) : (w.initializeAt codec path answer).2.Replays codec := by
  have hfresh := h path rfl hclosed
  rw [initializeAt_of_closed hclosed]
  show replayContents codec ((w.disk path).getD []) = w.loaded codec path answer
  unfold loaded
  cases hdisk : w.disk path with
  | none =>
    rw [hdisk] at hfresh
    rw [hfresh.1, hfresh.2]
    rfl
  | some contents =>
    rw [hdisk] at hfresh
    dsimp only at hfresh ⊢
    cases hread : answer.readOk with
    | false =>
      rw [hread, if_neg Bool.false_ne_true] at hfresh
      exact hfresh
    | true =>
      rw [hread, if_pos rfl] at hfresh
      by_cases hempty : contents = []
      · rw [(hfresh hempty).1, (hfresh hempty).2, hempty]
        rfl
      · simp [hempty]

def Synced (codec : JsonCodec) (w : JournalWorld) : Prop :=
  w.journal.isOpen = true → w.Replays codec

lemma Synced.call (h : w.Synced codec) {c : JournalCall × SystemAnswer}
    (hharmless : w.FailureHarmless codec c) (hframed : w.AppendsFramed codec c)
    (hfresh : w.InitializesFresh codec c) : (w.call codec c.2 c.1).2.Synced codec := by
  obtain ⟨c, answer⟩ := c
  cases hc : c.operation answer with
  | some p =>
    obtain ⟨r, entry⟩ := p
    rw [call_operation hc]
    cases hopen : w.journal.isOpen with
    | false => exact h
    | true =>
      rw [if_pos rfl]
      intro _
      by_cases hrefused : Refused codec entry answer
      · rw [(finishOperation_eq (w.recorded r) entry answer).1 hrefused]
        have hsame := r.apply_eq_self_iff.mpr (hharmless r entry hc hopen hrefused)
        have hreplays := h hopen
        unfold Replays at hreplays ⊢
        rw [contents_recorded, hreplays]
        show _ = (r.apply w.journal.state, _)
        rw [hsame]
        rfl
      · obtain ⟨hentry, hr⟩ := JournalCall.ofEntry_operation hc
        exact (h hopen).finishOperation hentry hr hrefused (hframed r entry hc hopen hrefused)
  | none =>
    cases c with
    | set key value => simp [JournalCall.operation] at hc
    | delete key => simp [JournalCall.operation] at hc
    | initializeAt path =>
      cases hopen : w.journal.isOpen with
      | false => exact fun _ => replays_initializeAt hfresh hopen
      | true =>
        simp only [JournalWorld.call, initializeAt, hopen, if_true]
        exact h
    | compact =>
      simp only [JournalWorld.call, compact]
      cases hopen : w.journal.isOpen with
      | false => exact h
      | true => exact fun _ => (h hopen).writeCompactedSnapshot answer
    | setCompactionThreshold threshold => exact h
    | flush => exact h
    | close => exact fun hopen => absurd hopen Bool.false_ne_true

/-- **Failing operations.** In every run of a new object on any disk, every `Set` and `Delete` that
returns `false` leaves the dictionary and the number of pending operations alone, if and only if
these are refused only when the journal is closed or when they would change nothing. If moreover
lines are appended only behind whole lines, and a missing or empty file is initialized only by an
object that holds nothing, then in every open state the dictionary is what the file replays to.

**Proof sketch.** The memory is changed before the line is built and appended, and not changed back.
-/
theorem failure_unchanged_iff (codec : JsonCodec) (disk : Disk)
    (calls : List (JournalCall × SystemAnswer)) :
    (Along (step codec) (FailureUnchanged codec) (start disk) calls ↔
      Along (step codec) (FailureHarmless codec) (start disk) calls) ∧
    (Along (step codec) (fun w c => w.FailureHarmless codec c ∧ w.AppendsFramed codec c ∧
        w.InitializesFresh codec c) (start disk) calls →
      ((start disk).run codec calls).journal.isOpen = true →
        ((start disk).run codec calls).getAll =
          (replayContents codec ((start disk).run codec calls).contents).1) := by
  constructor
  · exact Along.congr (I := fun _ => True) (fun _ _ _ _ _ _ => trivial)
      (fun w c _ => failureUnchanged_iff w c) calls _ trivial
  · intro hcareful hopen
    have hsynced := Along.foldl_invariant (I := Synced codec)
      (fun w c h hc => h.call hc.1 hc.2.1 hc.2.2) calls (start disk)
      (fun h => absurd h Bool.false_ne_true) hcareful
    exact (congrArg Prod.fst (hsynced hopen)).symm

/-- A byte string has no text; the value stays in memory all the same. -/
theorem refused_set_stays : ¬ ∀ (codec : JsonCodec) (disk : Disk)
    (calls : List (JournalCall × SystemAnswer)),
    Along (step codec) (FailureUnchanged codec) (start disk) calls := by
  intro h
  obtain ⟨-, hset, -⟩ := h (.ofTable [] JsonCodec.tableLaws_nil) (fun _ => none)
    [(.initializeAt "journal", {}), (.set "key" (.scalar (.binary [0])), {})]
  exact absurd (hset rfl rfl).1 (by decide)

end JournalWorld

end CefCore.Browser
