import CefCore.Browser.StateJournalReplay

/-!
# Compaction of the state journal

A snapshot replaces the lines of a journal by one.

## Main results

* `compaction_invisible`: the file replays to what the lines of all operations would have replayed
  to, also in between the file operations of a compaction.
-/

namespace CefCore.Browser.JournalWorld

open List JournalRecord

variable {codec : JsonCodec} {w : JournalWorld} {answer : SystemAnswer} {path : String}

/-- A call other than `Initialize` and `Close`, where `Set` and `Delete` return `true`. -/
def Successful (codec : JsonCodec) (w : JournalWorld) (c : JournalCall × SystemAnswer) : Prop :=
  (∀ path, c.1 ≠ .initializeAt path) ∧ c.1 ≠ .close ∧
    ((c.1.operation c.2).isSome = true → (w.call codec c.2 c.1).1 = true)

def uncompacted (codec : JsonCodec) (calls : List (JournalCall × SystemAnswer)) : Bytes :=
  (calls.map fun c =>
    match c.1.operation c.2 with
    | some (_, entry) => buildLine codec entry ++ [newline]
    | none => []).flatten

/-- After each file operation of a compaction, the journal file replays to the same dictionary as
before it. -/
def Invisible (codec : JsonCodec) (path : String) (compaction : Disk × List Disk) : Prop :=
  ∀ d ∈ compaction.2, (replayContents codec ((d path).getD [])).1 =
    (replayContents codec ((compaction.1 path).getD [])).1

/-- The invariant of a run without failures, where `plain` is the journal without compactions. -/
structure Journalling (codec : JsonCodec) (path : String) (plain : Bytes) (w : JournalWorld) :
    Prop where
  isOpen : w.journal.isOpen = true
  path_eq : w.journal.journalPath = path
  framed : LineLog.Framed newline w.contents
  replays : w.Replays codec
  plain_framed : LineLog.Framed newline plain
  plain_state : JournalRecord.meaning (recordsOf codec plain) = w.journal.state
  invisible : ∀ c ∈ w.compactions, Invisible codec path c

variable {plain : Bytes}

section

variable (h : Journalling codec path plain w)
include h

lemma Journalling.frame {w' : JournalWorld}
    (hdisk : w'.disk = w.disk) (hcompactions : w'.compactions = w.compactions)
    (hjournal : ∃ threshold, w'.journal = { w.journal with compactionThreshold := threshold }) :
    Journalling codec path plain w' := by
  obtain ⟨threshold, hjournal⟩ := hjournal
  have hcontents : w'.contents = w.contents := by rw [contents, contents, hdisk, hjournal]
  refine ⟨?_, ?_, ?_, ?_, h.plain_framed, ?_, ?_⟩
  · rw [hjournal]
    exact h.isOpen
  · rw [hjournal]
    exact h.path_eq
  · rw [hcontents]
    exact h.framed
  · unfold Replays
    rw [hcontents, hjournal]
    exact h.replays
  · rw [hjournal]
    exact h.plain_state
  · rw [hcompactions]
    exact h.invisible

lemma Journalling.replayContents_fst : (replayContents codec w.contents).1 = w.journal.state :=
  congrArg Prod.fst h.replays

lemma Journalling.writeCompactedSnapshot (answer : SystemAnswer) :
    Journalling codec path plain (w.writeCompactedSnapshot codec answer).2 := by
  have hreplays := h.replays.writeCompactedSnapshot answer
  have hinvisible : ∀ c ∈ (w.writeCompactedSnapshot codec answer).2.compactions,
      Invisible codec path c := by
    intro c hc
    rcases writeCompactedSnapshot_compactions answer c hc with hc | ⟨hbefore, hafter⟩
    · exact h.invisible c hc
    · intro d hd
      have hpath := hafter d hd
      rw [h.path_eq] at hpath
      rw [hbefore]
      rcases hpath with hsame | ⟨hcompacts, hline⟩
      · rw [hsame]
      · have hold := h.replayContents_fst
        unfold contents at hold
        rw [h.path_eq] at hold
        rw [hline, hold, Option.getD_some, replayContents_eq, recordsOf_snapshot hcompacts]
        rfl
  by_cases hcompacts : Compacts codec w.journal.state answer
  · obtain ⟨hcontents, hjournal⟩ := writeCompactedSnapshot_of hcompacts
    refine ⟨?_, ?_, ?_, hreplays, h.plain_framed, ?_, hinvisible⟩
    · rw [hjournal]
      exact h.isOpen
    · rw [hjournal]
      exact h.path_eq
    · rw [hcontents, ← nil_append (buildLine _ _ ++ [newline])]
      exact LineLog.framed_append_line _ _
    · rw [hjournal]
      exact h.plain_state
  · obtain ⟨hcontents, hjournal⟩ := writeCompactedSnapshot_of_not hcompacts
    refine ⟨?_, ?_, ?_, hreplays, h.plain_framed, ?_, hinvisible⟩
    · rw [hjournal]
      exact h.isOpen
    · rw [hjournal]
      exact h.path_eq
    · rw [hcontents]
      exact h.framed
    · rw [hjournal]
      exact h.plain_state

lemma Journalling.appended {r : JournalRecord}
    {entry : JsonDict} (hentry : JournalRecord.ofEntry entry = some r) (hr : r.IsSnapshot = false)
    (hline : buildLine codec entry ≠ []) :
    Journalling codec path (plain ++ (buildLine codec entry ++ [newline]))
      ((w.recorded r).appended (buildLine codec entry)) := by
  refine ⟨h.isOpen, h.path_eq, ?_, ?_, LineLog.framed_append_line _ _, ?_, h.invisible⟩
  · rw [contents_appended]
    exact LineLog.framed_append_line _ _
  · obtain ⟨hstate, hpending⟩ := Prod.mk.inj ((replayContents_eq w.contents).symm.trans h.replays)
    unfold Replays
    rw [replayContents_eq, contents_appended, contents_recorded,
      recordsOf_append_line h.framed hentry hline, meaning_concat,
      sinceSnapshot_concat, hr, hstate, hpending]
    rfl
  · rw [recordsOf_append_line h.plain_framed hentry hline, meaning_concat, h.plain_state]
    rfl

end

lemma Successful.call_eq {c : JournalCall} {r : JournalRecord} {entry : JsonDict}
    (h : w.Successful codec (c, answer)) (hopen : w.journal.isOpen = true)
    (hc : c.operation answer = some (r, entry)) : ¬ Refused codec entry answer ∧
      (w.call codec answer c).2 = if w.journal.compactionThreshold ≤ w.journal.pendingOps + 1 then
          (((w.recorded r).appended (buildLine codec entry)).writeCompactedSnapshot codec answer).2
        else (w.recorded r).appended (buildLine codec entry) := by
  have hreturned := h.2.2 (by simp [hc])
  rw [call_operation hc, hopen, if_pos rfl] at hreturned ⊢
  have haccepted : ¬ Refused codec entry answer := by
    intro hrefused
    rw [(finishOperation_eq (w.recorded r) entry answer).1 hrefused] at hreturned
    exact Bool.false_ne_true hreturned
  refine ⟨haccepted, ?_⟩
  rw [(finishOperation_eq (w.recorded r) entry answer).2 haccepted]
  rfl

/-- A successful call that is no operation compacts the journal or sets the threshold, or does
nothing. -/
lemma Successful.idle_cases {c : JournalCall} (h : w.Successful codec (c, answer))
    (hopen : w.journal.isOpen = true) (hc : c.operation answer = none) :
    (w.call codec answer c).2 = (w.writeCompactedSnapshot codec answer).2 ∨
      ∃ threshold, (w.call codec answer c).2 = w.setCompactionThreshold threshold := by
  cases c with
  | set key value => simp [JournalCall.operation] at hc
  | delete key => simp [JournalCall.operation] at hc
  | initializeAt path => exact absurd rfl (h.1 path)
  | compact => exact .inl (by simp [JournalWorld.call, compact, hopen])
  | setCompactionThreshold threshold => exact .inr ⟨threshold, rfl⟩
  | flush => exact .inr ⟨_, rfl⟩
  | close => exact absurd rfl h.2.1

lemma Journalling.call (h : Journalling codec path plain w)
    {c : JournalCall × SystemAnswer} (hc : w.Successful codec c) :
    Journalling codec path (plain ++ uncompacted codec [c]) (w.call codec c.2 c.1).2 := by
  obtain ⟨c, answer⟩ := c
  cases hoperation : c.operation answer with
  | some p =>
    obtain ⟨r, entry⟩ := p
    obtain ⟨hentry, hr⟩ := JournalCall.ofEntry_operation hoperation
    obtain ⟨haccepted, hcall⟩ := hc.call_eq h.isOpen hoperation
    have hplain : uncompacted codec [(c, answer)] = buildLine codec entry ++ [newline] := by
      simp [uncompacted, hoperation]
    have happended := h.appended hentry hr fun hempty => haccepted (.inl hempty)
    rw [hcall, hplain]
    split
    · exact happended.writeCompactedSnapshot answer
    · exact happended
  | none =>
    have hplain : uncompacted codec [(c, answer)] = [] := by simp [uncompacted, hoperation]
    rw [hplain, append_nil]
    rcases hc.idle_cases h.isOpen hoperation with hcall | ⟨threshold, hcall⟩
    · rw [hcall]
      exact h.writeCompactedSnapshot answer
    · rw [hcall]
      exact h.frame rfl rfl ⟨threshold, rfl⟩

lemma Journalling.run : ∀ (calls : List (JournalCall × SystemAnswer)) {plain : Bytes}
    {w : JournalWorld}, Journalling codec path plain w →
      Transition.Along (step codec) (Successful codec) w calls →
        Journalling codec path (plain ++ uncompacted codec calls) (w.run codec calls)
  | [], plain, w, h, _ => by
    rw [show uncompacted codec [] = [] from rfl, append_nil]
    exact h
  | c :: calls, plain, w, h, hcalls => by
    obtain ⟨hc, hrest⟩ := hcalls
    have hrun := Journalling.run calls (h.call hc) hrest
    have hplain : uncompacted codec (c :: calls) =
        uncompacted codec [c] ++ uncompacted codec calls := by
      simp [uncompacted]
    rw [hplain, ← append_assoc]
    exact hrun

lemma openAt_eq (codec : JsonCodec) (disk : Disk) (path : String) : openAt codec disk path =
    ⟨⟨path, true, (replayContents codec ((disk path).getD [])).1,
      (replayContents codec ((disk path).getD [])).2, 100⟩, disk, []⟩ := by
  have hloaded : (start disk).loaded codec path {} =
      replayContents codec ((disk path).getD []) := by
    unfold loaded start
    dsimp only
    cases disk path with
    | none => rfl
    | some contents => cases contents <;> rfl
  unfold openAt
  rw [initializeAt_of_closed rfl, hloaded]
  rfl

lemma journalling_openAt {disk : Disk} (h : LineLog.Framed newline ((disk path).getD [])) :
    Journalling codec path ((disk path).getD []) (openAt codec disk path) := by
  rw [openAt_eq]
  refine ⟨rfl, rfl, h, rfl, h, ?_, by simp⟩
  rw [replayContents_eq]

/-- **Compaction is invisible.** A journal file that is missing, empty or ends with a line is
initialized by a new object; then come successful operations, with compactions at any time, going
well or not. The file replays to what it would replay to without compactions, at each point of each
of them; and as many operations are pending as there are records behind the last snapshot.

**Proof sketch.** Both files replay to the dictionary in memory. An operation adds its record to
both, and a snapshot holds this dictionary. -/
theorem compaction_invisible (codec : JsonCodec) (disk : Disk) (path : String)
    (hframed : LineLog.Framed newline ((disk path).getD []))
    (calls : List (JournalCall × SystemAnswer))
    (hcalls : Transition.Along (step codec) (Successful codec) (openAt codec disk path) calls) :
    (replayContents codec ((openAt codec disk path).run codec calls).contents).1 =
        (replayContents codec ((disk path).getD [] ++ uncompacted codec calls)).1 ∧
      ((openAt codec disk path).run codec calls).getPendingOperationCount =
        JournalRecord.sinceSnapshot
          (recordsOf codec ((openAt codec disk path).run codec calls).contents) ∧
      ∀ compaction ∈ ((openAt codec disk path).run codec calls).compactions,
        Invisible codec path compaction := by
  have h := Journalling.run calls (journalling_openAt hframed) hcalls
  refine ⟨?_, ?_, h.invisible⟩
  · rw [h.replayContents_fst, replayContents_eq]
    exact h.plain_state.symm
  · have hpending := congrArg Prod.snd h.replays
    rw [replayContents_eq] at hpending
    exact hpending.symm

def ascii (text : String) : Bytes := text.toList.map fun c => c.toNat.toUInt8

def sampleTable : List (JsonDict × Bytes) :=
  [(setEntry "a" (stringValue "x") 0, ascii "\x7b\"key\":\"a\",\"op\":\"set\",\"ts\":0.0,\"value\":\"x\"\x7d"),
    (setEntry "b" (stringValue "y") 0, ascii "\x7b\"key\":\"b\",\"op\":\"set\",\"ts\":0.0,\"value\":\"y\"\x7d"),
    (snapshotEntry [("a", stringValue "x")] 0,
      ascii "\x7b\"data\":\x7b\"a\":\"x\"\x7d,\"op\":\"snapshot\",\"ts\":0.0\x7d")]

lemma sampleTable_laws : JsonCodec.TableLaws sampleTable := by
  decide +kernel

def sampleCodec : JsonCodec := .ofTable sampleTable sampleTable_laws

def compactedCalls : List (JournalCall × SystemAnswer) :=
  [(.setCompactionThreshold 1, {}), (.set "a" (stringValue "x"), {})]

/-- The compaction has left one line behind, and no pending operations. -/
theorem compaction_invisible_compactedCalls :
    ((openAt sampleCodec (fun _ => none) "journal").run sampleCodec compactedCalls).contents =
        buildLine sampleCodec (snapshotEntry [("a", stringValue "x")] 0) ++ [newline] ∧
      ((openAt sampleCodec (fun _ => none) "journal").run sampleCodec
          compactedCalls).getPendingOperationCount =
        JournalRecord.sinceSnapshot (recordsOf sampleCodec
          ((openAt sampleCodec (fun _ => none) "journal").run sampleCodec compactedCalls).contents) :=
  ⟨by decide +kernel, (compaction_invisible sampleCodec (fun _ => none) "journal" (.inl rfl)
    compactedCalls ⟨⟨by simp, by simp, by decide +kernel⟩, ⟨by simp, by simp, by decide +kernel⟩,
      trivial⟩).2.1⟩

end CefCore.Browser.JournalWorld
