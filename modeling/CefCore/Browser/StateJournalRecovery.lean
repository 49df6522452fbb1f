import CefCore.Browser.StateJournalCompaction

/-!
# Recovery of the state journal

A crash in the middle of an append leaves a journal file that has been cut off somewhere. A new
object replays what is left, skipping a torn line at the end, and goes on appending.

## Main results

* `recovers_of_framed`: nothing but the torn line is lost if the file ends with a line.
-/

namespace CefCore.Browser.JournalWorld

open List Option LineLog Transition

variable {codec : JsonCodec} {w : JournalWorld} {answer : SystemAnswer} {path : String}

/-! ### Files that have been cut off -/

def Written (codec : JsonCodec) (contents : Bytes) : Prop :=
  ∃ lines, contents = LineLog.frame newline lines ∧ ∀ line ∈ lines,
    ∃ entry r, codec.write entry = some line ∧ JournalRecord.ofEntry entry = some r

lemma written_append_line {contents : Bytes} (h : Written codec contents) {entry : JsonDict}
    {r : JournalRecord} (hentry : JournalRecord.ofEntry entry = some r)
    (hline : buildLine codec entry ≠ []) :
    Written codec (contents ++ (buildLine codec entry ++ [newline])) := by
  obtain ⟨lines, rfl, hlines⟩ := h
  refine ⟨lines ++ [buildLine codec entry], (frame_concat _ _).symm, fun line hmem => ?_⟩
  rcases mem_append.mp hmem with hmem | hmem
  · exact hlines line hmem
  · rw [mem_singleton.mp hmem]
    exact ⟨entry, r, write_buildLine hline, hentry⟩

lemma count_newline_frame {lines : List Bytes} (h : ∀ line ∈ lines, newline ∉ line) :
    (LineLog.frame newline lines).count newline = lines.length := by
  induction lines with
  | nil => rfl
  | cons line lines ih =>
    obtain ⟨hline, hrest⟩ := forall_mem_cons.mp h
    rw [frame_cons, count_append, count_append, count_eq_zero_of_not_mem hline, ih hrest]
    simp [Nat.add_comm]

lemma recordsOf_frame {lines : List Bytes} (h : ∀ line ∈ lines,
    ∃ entry r, codec.write entry = some line ∧ JournalRecord.ofEntry entry = some r) :
    recordsOf codec (LineLog.frame newline lines) =
        lines.filterMap (fun line => (codec.read line).bind JournalRecord.ofEntry) ∧
      ∀ line ∈ lines, ((codec.read line).bind JournalRecord.ofEntry).isSome = true := by
  refine ⟨?_, fun line hline => ?_⟩
  · unfold recordsOf
    rw [records_frame fun line hline => ?_]
    obtain ⟨entry, r, hwrite, -⟩ := h line hline
    exact ⟨codec.newline_not_mem _ _ hwrite, codec.write_ne_nil _ _ hwrite⟩
  · obtain ⟨entry, r, hwrite, hentry⟩ := h line hline
    simp [codec.read_write _ _ hwrite, hentry]

lemma filterMap_take {α β : Type} {f : α → Option β} : ∀ {l : List α},
    (∀ x ∈ l, (f x).isSome = true) → ∀ k, (l.take k).filterMap f = (l.filterMap f).take k
  | [], _, k => by simp
  | x :: l, h, k => by
    obtain ⟨hx, hrest⟩ := forall_mem_cons.mp h
    obtain ⟨y, hy⟩ := isSome_iff_exists.mp hx
    cases k with
    | zero => rfl
    | succ k =>
      rw [take_succ_cons, filterMap_cons_some hy, filterMap_cons_some hy,
        take_succ_cons, filterMap_take hrest]

/-- **A file that has been cut off** holds the records up to the cut: at least those whose lines are
whole, and nothing that has not been written.

**Proof sketch.** What is left are whole lines and a beginning of the next one. If this is all of its
text, it is one more record; otherwise it is not a text at all. -/
lemma Written.recordsOf_take {contents : Bytes} (h : Written codec contents) (n : Nat) :
    ∃ k, (contents.take n).count newline ≤ k ∧
      recordsOf codec (contents.take n) = (recordsOf codec contents).take k := by
  obtain ⟨lines, rfl, hlines⟩ := h
  obtain ⟨k, torn, htake, htorn⟩ := take_frame lines n
  have hfront : ∀ line ∈ lines.take k, ∃ entry r, codec.write entry = some line ∧
      JournalRecord.ofEntry entry = some r := fun line hline => hlines line (mem_of_mem_take hline)
  have hnewline : ∀ line ∈ lines, newline ∉ line := by
    intro line hline
    obtain ⟨entry, r, hwrite, -⟩ := hlines line hline
    exact codec.newline_not_mem _ _ hwrite
  obtain ⟨hrecords, hsome⟩ := recordsOf_frame hlines
  have hcount : (LineLog.frame newline (lines.take k)).count newline ≤ k := by
    rw [count_newline_frame fun line hline => hnewline line (mem_of_mem_take hline)]
    exact length_take_le k lines
  rw [htake]
  rcases htorn with rfl | ⟨line, m, hline, hpos, hle, rfl⟩
  · refine ⟨k, by rwa [append_nil], ?_⟩
    rw [append_nil, (recordsOf_frame hfront).1, hrecords, filterMap_take hsome]
  · have hmem : line ∈ lines := mem_of_getElem? hline
    obtain ⟨entry, r, hwrite, hentry⟩ := hlines line hmem
    have htornNewline : newline ∉ line.take m := fun hin =>
      hnewline line hmem (mem_of_mem_take hin)
    have htornNil : line.take m ≠ [] := by
      intro hnil
      have hlength := congrArg List.length hnil
      rw [length_take, Nat.min_eq_left hle] at hlength
      exact Nat.ne_of_gt hpos hlength
    have hcount' : (LineLog.frame newline (lines.take k) ++ line.take m).count newline ≤ k := by
      rw [count_append, count_eq_zero_of_not_mem htornNewline, Nat.add_zero]
      exact hcount
    have hsplit : recordsOf codec (LineLog.frame newline (lines.take k) ++ line.take m) =
        (recordsOf codec (LineLog.frame newline lines)).take k ++
          [line.take m].filterMap fun line => (codec.read line).bind JournalRecord.ofEntry := by
      rw [hrecords, ← filterMap_take hsome, ← (recordsOf_frame hfront).1]
      unfold recordsOf
      rw [records_framed_append (framed_frame _), filterMap_append,
        records_of_not_mem htornNewline htornNil]
    rcases Nat.lt_or_eq_of_le hle with hlt | rfl
    · refine ⟨k, hcount', ?_⟩
      rw [hsplit]
      simp [codec.read_take _ _ hwrite m hlt]
    · -- only the end of the line is missing
      refine ⟨k + 1, Nat.le_succ_of_le hcount', ?_⟩
      have hget : (recordsOf codec (LineLog.frame newline lines))[k]? = some r := by
        have hsucc := filterMap_take hsome (k + 1)
        rw [take_add_one, hline, toList_some, filterMap_append,
          filterMap_take hsome, ← hrecords, take_add_one] at hsucc
        have htail := append_cancel_left hsucc
        simp only [filterMap_cons, codec.read_write _ _ hwrite, bind_some, hentry,
          filterMap_nil] at htail
        cases hr : (recordsOf codec (LineLog.frame newline lines))[k]? with
        | none => rw [hr] at htail; exact absurd htail (cons_ne_nil _ _)
        | some r' =>
          rw [hr] at htail
          exact congrArg some (cons.inj htail).1.symm
      rw [hsplit, take_length, take_add_one, hget]
      simp [codec.read_write _ _ hwrite, hentry]

/-! ### Two lives of a journal -/

lemma Written.writeCompactedSnapshot (h : Written codec w.contents) (answer : SystemAnswer) :
    Written codec (w.writeCompactedSnapshot codec answer).2.contents := by
  by_cases hcompacts : Compacts codec w.journal.state answer
  · rw [(writeCompactedSnapshot_of hcompacts).1]
    exact written_append_line ⟨[], rfl, by simp⟩
      (JournalRecord.ofEntry_snapshotEntry _ _) hcompacts.1
  · rw [(writeCompactedSnapshot_of_not hcompacts).1]
    exact h

lemma Written.call (h : Written codec w.contents) (hopen : w.journal.isOpen = true)
    {c : JournalCall × SystemAnswer} (hc : w.Successful codec c) :
    Written codec (w.call codec c.2 c.1).2.contents := by
  obtain ⟨c, answer⟩ := c
  cases hoperation : c.operation answer with
  | some p =>
    obtain ⟨r, entry⟩ := p
    obtain ⟨haccepted, hcall⟩ := hc.call_eq hopen hoperation
    have happended : Written codec ((w.recorded r).appended (buildLine codec entry)).contents := by
      rw [contents_appended, contents_recorded]
      exact written_append_line h (JournalCall.ofEntry_operation hoperation).1
        fun hempty => haccepted (.inl hempty)
    rw [hcall]
    split
    · exact happended.writeCompactedSnapshot answer
    · exact happended
  | none =>
    rcases hc.idle_cases hopen hoperation with hcall | ⟨threshold, hcall⟩
    · rw [hcall]
      exact h.writeCompactedSnapshot answer
    · rw [hcall]
      exact h

lemma Written.run : ∀ (calls : List (JournalCall × SystemAnswer)) {plain : Bytes} {w : JournalWorld},
    Journalling codec path plain w → Written codec w.contents →
      Along (step codec) (Successful codec) w calls →
        Written codec (w.run codec calls).contents
  | [], _, _, _, h, _ => h
  | _ :: calls, _, _, hjournalling, h, hcalls =>
    Written.run calls (hjournalling.call hcalls.1) (h.call hjournalling.isOpen hcalls.1) hcalls.2

def OpenAt (codec : JsonCodec) (path : String) (w : JournalWorld) : Prop :=
  w.journal.isOpen = true ∧ w.journal.journalPath = path ∧ w.Replays codec

lemma OpenAt.writeCompactedSnapshot (hopen : w.journal.isOpen = true)
    (hpath : w.journal.journalPath = path) (answer : SystemAnswer) :
    (w.writeCompactedSnapshot codec answer).2.journal.isOpen = true ∧
      (w.writeCompactedSnapshot codec answer).2.journal.journalPath = path := by
  by_cases hcompacts : Compacts codec w.journal.state answer
  · rw [(writeCompactedSnapshot_of hcompacts).2]
    exact ⟨hopen, hpath⟩
  · rw [(writeCompactedSnapshot_of_not hcompacts).2]
    exact ⟨hopen, hpath⟩

lemma OpenAt.call (h : OpenAt codec path w) {c : JournalCall × SystemAnswer}
    (hc : w.Successful codec c) (hframed : w.AppendsFramed codec c) :
    OpenAt codec path (w.call codec c.2 c.1).2 := by
  obtain ⟨hopen, hpath, hreplays⟩ := h
  obtain ⟨c, answer⟩ := c
  cases hoperation : c.operation answer with
  | some p =>
    obtain ⟨r, entry⟩ := p
    obtain ⟨haccepted, hcall⟩ := hc.call_eq hopen hoperation
    obtain ⟨hentry, hr⟩ := JournalCall.ofEntry_operation hoperation
    have hsynced := hreplays.finishOperation hentry hr haccepted
      (hframed r entry hoperation hopen haccepted)
    have hfinish := @call_operation codec w _ _ _ _ hoperation
    rw [hopen, if_pos rfl] at hfinish
    rw [← hfinish] at hsynced
    have hsame : (w.call codec answer c).2.journal.isOpen = true ∧
        (w.call codec answer c).2.journal.journalPath = path := by
      rw [hcall]
      split
      · exact OpenAt.writeCompactedSnapshot
          (w := (w.recorded r).appended (buildLine codec entry)) hopen hpath answer
      · exact ⟨hopen, hpath⟩
    exact ⟨hsame.1, hsame.2, hsynced⟩
  | none =>
    rcases hc.idle_cases hopen hoperation with hcall | ⟨threshold, hcall⟩
    · rw [hcall]
      obtain ⟨hopen', hpath'⟩ := OpenAt.writeCompactedSnapshot hopen hpath answer
      exact ⟨hopen', hpath', hreplays.writeCompactedSnapshot answer⟩
    · rw [hcall]
      exact ⟨hopen, hpath, hreplays⟩

/-- The disk after a crash that leaves the first `n` bytes of the journal file. -/
def crashed (w : JournalWorld) (n : Nat) : Disk :=
  Function.update w.disk w.journal.journalPath
    ((w.disk w.journal.journalPath).map fun contents => contents.take n)

/-- **Recovery** from a file that has been cut off: the new object holds what the records up to the
cut say, with at most the torn one missing, and after the calls that follow, an object that is
initialized with the file holds what is in memory. -/
structure Recovers (codec : JsonCodec) (path : String) (file : Bytes) (n : Nat)
    (recovered : JournalWorld) (calls : List (JournalCall × SystemAnswer)) : Prop where
  torn_only : ∃ k, (file.take n).count newline ≤ k ∧
    recovered.getAll = JournalRecord.meaning ((recordsOf codec file).take k)
  nothing_lost : (openAt codec (recovered.run codec calls).disk path).getAll =
      (recovered.run codec calls).getAll ∧
    (openAt codec (recovered.run codec calls).disk path).getPendingOperationCount =
      (recovered.run codec calls).getPendingOperationCount

/-- **Crash recovery.** A new journal is written by successful operations and compactions, and its
file is cut off anywhere. If the operations that follow, all successful, append behind whole lines
or compact the journal, then the journal recovers.

**Proof sketch.** What is left are whole lines and perhaps a torn one, which is skipped. -/
theorem recovers_of_framed (codec : JsonCodec) (disk : Disk) (path : String)
    (hnew : disk path = none) (calls : List (JournalCall × SystemAnswer))
    (hcalls : Along (step codec) (Successful codec) (openAt codec disk path) calls)
    (n : Nat) (calls' : List (JournalCall × SystemAnswer))
    (hcalls' : Along (step codec)
      (fun w c => w.Successful codec c ∧ w.AppendsFramed codec c)
      (openAt codec (((openAt codec disk path).run codec calls).crashed n) path) calls') :
    Recovers codec path ((openAt codec disk path).run codec calls).contents n
      (openAt codec (((openAt codec disk path).run codec calls).crashed n) path) calls' := by
  have hempty : (disk path).getD [] = [] := by rw [hnew]; rfl
  have hstart : Journalling codec path [] (openAt codec disk path) := by
    have hopened : Journalling codec path ((disk path).getD []) (openAt codec disk path) :=
      journalling_openAt (by rw [hempty]; exact .inl rfl)
    rwa [hempty] at hopened
  have hstartWritten : Written codec (openAt codec disk path).contents := by
    rw [openAt_eq]
    show Written codec ((disk path).getD [])
    rw [hempty]
    exact ⟨[], rfl, by simp⟩
  have hend := hstart.run calls hcalls
  have hwritten := Written.run calls hstart hstartWritten hcalls
  generalize (openAt codec disk path).run codec calls = w at hend hwritten hcalls' ⊢
  have hcut : ((w.crashed n) path).getD [] = w.contents.take n := by
    unfold crashed contents
    rw [hend.path_eq, Function.update_self]
    cases w.disk path <;> simp
  have hopened : OpenAt codec path (openAt codec (w.crashed n) path) := by
    rw [openAt_eq]
    exact ⟨rfl, rfl, rfl⟩
  refine ⟨?_, ?_⟩
  · obtain ⟨k, hk, hrecords⟩ := hwritten.recordsOf_take n
    refine ⟨k, hk, ?_⟩
    rw [openAt_eq, hcut]
    show (replayContents codec (w.contents.take n)).1 = _
    rw [replayContents_eq, hrecords]
  · obtain ⟨-, hpath, hreplays⟩ := Along.foldl_invariant (I := OpenAt codec path)
      (fun w c h hc => h.call hc.1 hc.2) calls' _ hopened hcalls'
    have hfile : replayContents codec
        ((((openAt codec (w.crashed n) path).run codec calls').disk path).getD []) =
          (((openAt codec (w.crashed n) path).run codec calls').journal.state,
            ((openAt codec (w.crashed n) path).run codec calls').journal.pendingOps) := by
      unfold Replays contents at hreplays
      rw [hpath] at hreplays
      exact hreplays
    rw [openAt_eq, hfile]
    exact ⟨rfl, rfl⟩

def oneSet : List (JournalCall × SystemAnswer) := [(.set "a" (stringValue "x"), {})]

def anotherSet : List (JournalCall × SystemAnswer) := [(.set "b" (stringValue "y"), {})]

/-- The file is cut off behind the line of its operation, and another one follows. -/
theorem recovers_of_framed_wholeLine : Recovers sampleCodec "journal"
    ((openAt sampleCodec (fun _ => none) "journal").run sampleCodec oneSet).contents 44
    (openAt sampleCodec
      (((openAt sampleCodec (fun _ => none) "journal").run sampleCodec oneSet).crashed 44) "journal")
    anotherSet :=
  recovers_of_framed sampleCodec (fun _ => none) "journal" rfl oneSet
    ⟨⟨by simp, by simp, by decide +kernel⟩, trivial⟩ 44 anotherSet
    ⟨⟨⟨by simp, by simp, by decide +kernel⟩, fun _ _ _ _ _ => .inl (by decide +kernel)⟩, trivial⟩

/-- The file is cut off in the middle of its line. The line of the next operation is appended to the
rest of it, and the two of them are skipped as one corrupt line. -/
theorem torn_line_swallows_next : ¬ ∀ (codec : JsonCodec) (disk : Disk) (path : String),
    disk path = none → ∀ calls : List (JournalCall × SystemAnswer),
      Along (step codec) (Successful codec) (openAt codec disk path) calls →
        ∀ (n : Nat) (calls' : List (JournalCall × SystemAnswer)),
          Along (step codec) (Successful codec)
            (openAt codec (((openAt codec disk path).run codec calls).crashed n) path) calls' →
          Recovers codec path ((openAt codec disk path).run codec calls).contents n
            (openAt codec (((openAt codec disk path).run codec calls).crashed n) path) calls' := by
  intro h
  have hrecovers := h sampleCodec (fun _ => none) "journal" rfl oneSet
    ⟨⟨by simp, by simp, by decide +kernel⟩, trivial⟩ 5 anotherSet
    ⟨⟨by simp, by simp, by decide +kernel⟩, trivial⟩
  exact absurd hrecovers.nothing_lost.1 (by decide +kernel)

end CefCore.Browser.JournalWorld
