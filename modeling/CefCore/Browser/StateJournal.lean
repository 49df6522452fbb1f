import CefCore.Foundations.JsonValue
import CefCore.Foundations.LineLog
import CefCore.Foundations.Run
import Mathlib.Logic.Function.Basic

/-!
# The state journal

`CefStateJournal` of `libcef/browser/state_journal.cc`: a dictionary in memory whose changes are
appended to a file, one JSON text on each line. `Initialize` replays the file; compaction replaces
it by one line with the whole dictionary, through a temporary file.

## Main definitions

* `JournalWorld.step`: a call.

## Implementation notes

* `base::JSONWriter` and `base::JSONReader` are a `JsonCodec`. A failed `Write` gives an empty line.
* A call holds `lock_`, so that it is one step. What the operating system answers during a call, and
  the clock, are in a `SystemAnswer`. A failed append or a failed `Move` leaves the file alone; a
  failed write of the temporary file leaves anything there.
* `Get`, `Has` and the other accessors read `state_` and `pending_ops_` as they are.
* `AddExtension` appends to the path; logging is left out.
-/

namespace CefCore.Browser

open List

abbrev Bytes := List UInt8

abbrev Disk := String → Option Bytes

structure CefStateJournal where
  journalPath : String
  isOpen : Bool
  state : JsonDict
  pendingOps : Nat
  compactionThreshold : Nat

def CefStateJournal.new : CefStateJournal := ⟨"", false, [], 0, 100⟩

/-- What the system answers during a call: the results of its file operations, what a failed write
leaves in the temporary file, and the times of the entry and of the snapshot. -/
structure SystemAnswer where
  readOk : Bool := true
  appendOk : Bool := true
  writeOk : Bool := true
  moveOk : Bool := true
  deleteOk : Bool := true
  leftover : Option Bytes := none
  now : UInt64 := 0
  snapshotNow : UInt64 := 0

/-! ### Lines -/

def stringValue (s : String) : JsonValue := .scalar (.string s)

/-- The entry of `BuildSetLine`. -/
def setEntry (key : String) (value : JsonValue) (timestamp : UInt64) : JsonDict :=
  (((JsonDict.set [] "op" (stringValue "set")).set "key" (stringValue key)).set "value" value).set
    "ts" (.scalar (.double timestamp))

/-- The entry of `BuildDeleteLine`. -/
def deleteEntry (key : String) (timestamp : UInt64) : JsonDict :=
  ((JsonDict.set [] "op" (stringValue "delete")).set "key" (stringValue key)).set
    "ts" (.scalar (.double timestamp))

/-- The entry of `BuildSnapshotLine`. -/
def snapshotEntry (data : JsonDict) (timestamp : UInt64) : JsonDict :=
  ((JsonDict.set [] "op" (stringValue "snapshot")).set "data" (.dict data)).set
    "ts" (.scalar (.double timestamp))

section Codec

variable (codec : JsonCodec)

/-- `BuildSetLine`, `BuildDeleteLine` and `BuildSnapshotLine`, given the entry. -/
def buildLine (entry : JsonDict) : Bytes := (codec.write entry).getD []

/-- One line of `ReplayJournal`, on the state and the number of pending operations. -/
def replayLine (s : JsonDict × Nat) (line : Bytes) : JsonDict × Nat :=
  match codec.read line with
  -- a corrupt line is skipped
  | none => s
  | some entry =>
    match entry.findString "op" with
    | none => s
    | some op =>
      if op = "set" then
        match entry.findString "key", entry.find? "value" with
        | some key, some value => (s.1.set key value, s.2 + 1)
        | _, _ => s
      else if op = "delete" then
        match entry.findString "key" with
        | some key => (s.1.remove key, s.2 + 1)
        | none => s
      else if op = "snapshot" then
        match entry.findDict "data" with
        | some data => (data, 0)
        | none => s
      else s

/-- What the lines of a file make of the empty state. -/
def replayContents (contents : Bytes) : JsonDict × Nat :=
  (LineLog.records newline contents).foldl (replayLine codec) ([], 0)

/-- `ReplayJournal`, with the contents of the file unless it could not be read. An empty file leaves
the object as it is. -/
def replayJournal (j : CefStateJournal) : Option Bytes → Option CefStateJournal
  | none => none
  | some [] => some j
  | some contents =>
    let (state, pendingOps) := replayContents codec contents
    some { j with state := state, pendingOps := pendingOps }

end Codec

/-! ### Calls -/

/-- The object and the disk, with the disk before each compaction and the disks after its file
operations. -/
structure JournalWorld where
  journal : CefStateJournal
  disk : Disk
  compactions : List (Disk × List Disk)

namespace JournalWorld

variable (codec : JsonCodec)

section

variable (w : JournalWorld)

def contents : Bytes := (w.disk w.journal.journalPath).getD []

/-- `Initialize`. -/
def initializeAt (path : String) (answer : SystemAnswer) : Bool × JournalWorld :=
  if w.journal.isOpen then (false, w)
  else
    let j := { w.journal with journalPath := path }
    let j :=
      match w.disk path with
      | none => j
      | some contents =>
        match replayJournal codec j (if answer.readOk then some contents else none) with
        | some j => j
        | none => { j with state := [], pendingOps := 0 }
    (true, { w with journal := { j with isOpen := true } })

/-- `AppendLine`: create the file or append to it. -/
def appendLine (line : Bytes) (answer : SystemAnswer) : Bool × JournalWorld :=
  let data := line ++ [newline]
  match w.disk w.journal.journalPath with
  | none =>
    if answer.appendOk then
      (true, { w with disk := Function.update w.disk w.journal.journalPath (some data) })
    else (false, w)
  | some contents =>
    if answer.appendOk then
      (true, { w with disk := Function.update w.disk w.journal.journalPath (some (contents ++ data)) })
    else (false, w)

def tmpPath : String := w.journal.journalPath ++ ".tmp"

def writeCompactedSnapshot (answer : SystemAnswer) : Bool × JournalWorld :=
  let line := buildLine codec (snapshotEntry w.journal.state answer.snapshotNow)
  if line = [] then (false, w)
  else
    let data := line ++ [newline]
    if !answer.writeOk then
      let failed := Function.update w.disk w.tmpPath answer.leftover
      (false, { w with disk := failed, compactions := (w.disk, [failed]) :: w.compactions })
    else
      let written := Function.update w.disk w.tmpPath (some data)
      if !answer.moveOk then
        let cleaned := if answer.deleteOk then Function.update written w.tmpPath none else written
        (false, { w with
          disk := cleaned
          compactions := (w.disk, [written, cleaned]) :: w.compactions })
      else
        let moved := Function.update (Function.update written w.journal.journalPath (some data))
          w.tmpPath none
        (true, { w with
          journal := { w.journal with pendingOps := 0 }
          disk := moved
          compactions := (w.disk, [written, moved]) :: w.compactions })

/-- The end of `Set` and `Delete`, after the change in memory: append the line, and compact when it
is time to. -/
def finishOperation (line : Bytes) (answer : SystemAnswer) : Bool × JournalWorld :=
  if line = [] then (false, w)
  else
    match w.appendLine line answer with
    | (false, w) => (false, w)
    | (true, w) =>
      let w := { w with journal := { w.journal with pendingOps := w.journal.pendingOps + 1 } }
      if w.journal.compactionThreshold ≤ w.journal.pendingOps then
        (true, (w.writeCompactedSnapshot codec answer).2)
      else (true, w)

def set (key : String) (value : JsonValue) (answer : SystemAnswer) : Bool × JournalWorld :=
  if !w.journal.isOpen then (false, w)
  else
    { w with journal := { w.journal with state := w.journal.state.set key value } }.finishOperation
      codec (buildLine codec (setEntry key value answer.now)) answer

def delete (key : String) (answer : SystemAnswer) : Bool × JournalWorld :=
  if !w.journal.isOpen then (false, w)
  else
    { w with journal := { w.journal with state := w.journal.state.remove key } }.finishOperation
      codec (buildLine codec (deleteEntry key answer.now)) answer

def compact (answer : SystemAnswer) : Bool × JournalWorld :=
  if !w.journal.isOpen then (false, w) else w.writeCompactedSnapshot codec answer

def setCompactionThreshold (threshold : Nat) : JournalWorld :=
  { w with journal := { w.journal with compactionThreshold := threshold } }

def flush : Bool :=
  w.journal.isOpen && (w.disk w.journal.journalPath).isSome

def close : JournalWorld :=
  { w with journal := { w.journal with isOpen := false } }

def getAll : JsonDict := w.journal.state

def getPendingOperationCount : Nat := w.journal.pendingOps

end

end JournalWorld

/-- The calls of a journal object that may change something. -/
inductive JournalCall where
  | initializeAt (path : String)
  | set (key : String) (value : JsonValue)
  | delete (key : String)
  | compact
  | setCompactionThreshold (threshold : Nat)
  | flush
  | close

namespace JournalWorld

variable (codec : JsonCodec)

def call (w : JournalWorld) (answer : SystemAnswer) : JournalCall → Bool × JournalWorld
  | .initializeAt path => w.initializeAt codec path answer
  | .set key value => w.set codec key value answer
  | .delete key => w.delete codec key answer
  | .compact => w.compact codec answer
  | .setCompactionThreshold threshold => (true, w.setCompactionThreshold threshold)
  | .flush => (w.flush, w)
  | .close => (true, w.close)

/-- One step: a call and what the system answers. Every call comes back. -/
def step (w : JournalWorld) (c : JournalCall × SystemAnswer) : Option JournalWorld :=
  some (w.call codec c.2 c.1).2

def run (w : JournalWorld) (calls : List (JournalCall × SystemAnswer)) : JournalWorld :=
  calls.foldl (fun w c => (w.call codec c.2 c.1).2) w

def start (disk : Disk) : JournalWorld := ⟨.new, disk, []⟩

/-- A new object that has been initialized with a journal file, which could be read if there is
one. -/
def openAt (disk : Disk) (path : String) : JournalWorld :=
  ((start disk).initializeAt codec path {}).2

end JournalWorld

/-! ### What a journal means -/

inductive JournalRecord where
  | set (key : String) (value : JsonValue)
  | delete (key : String)
  | snapshot (data : JsonDict)

namespace JournalRecord

def apply (d : JsonDict) : JournalRecord → JsonDict
  | set key value => d.set key value
  | delete key => d.remove key
  | snapshot data => data

def IsSnapshot : JournalRecord → Bool
  | snapshot _ => true
  | _ => false

def ofEntry (entry : JsonDict) : Option JournalRecord :=
  match entry.findString "op" with
  | some "set" =>
    match entry.findString "key", entry.find? "value" with
    | some key, some value => some (set key value)
    | _, _ => none
  | some "delete" => (entry.findString "key").map delete
  | some "snapshot" => (entry.findDict "data").map snapshot
  | _ => none

lemma ofEntry_setEntry (key : String) (value : JsonValue) (timestamp : UInt64) :
    ofEntry (setEntry key value timestamp) = some (set key value) := by
  simp [ofEntry, setEntry, stringValue, JsonDict.findString]

lemma ofEntry_deleteEntry (key : String) (timestamp : UInt64) :
    ofEntry (deleteEntry key timestamp) = some (delete key) := by
  simp [ofEntry, deleteEntry, stringValue, JsonDict.findString]

lemma ofEntry_snapshotEntry (data : JsonDict) (timestamp : UInt64) :
    ofEntry (snapshotEntry data timestamp) = some (snapshot data) := by
  simp [ofEntry, snapshotEntry, stringValue, JsonDict.findString, JsonDict.findDict]

section

variable (records : List JournalRecord)

def meaning : JsonDict := records.foldl apply []

def sinceSnapshot : Nat :=
  (records.reverse.takeWhile fun r => !r.IsSnapshot).length

lemma meaning_concat (r : JournalRecord) :
    meaning (records ++ [r]) = r.apply (meaning records) := by
  simp [meaning]

lemma sinceSnapshot_concat (r : JournalRecord) :
    sinceSnapshot (records ++ [r]) = if r.IsSnapshot then 0 else sinceSnapshot records + 1 := by
  cases hr : r.IsSnapshot <;> simp [sinceSnapshot, hr]

end

end JournalRecord

section Codec

variable {codec : JsonCodec}

/-- The records of a journal file, without the lines that are skipped. -/
def recordsOf (codec : JsonCodec) (contents : Bytes) : List JournalRecord :=
  (LineLog.records newline contents).filterMap fun line =>
    (codec.read line).bind JournalRecord.ofEntry

lemma replayLine_eq (s : JsonDict × Nat) (line : Bytes) : replayLine codec s line =
    match (codec.read line).bind JournalRecord.ofEntry with
    | none => s
    | some r => (r.apply s.1, if r.IsSnapshot then 0 else s.2 + 1) := by
  unfold replayLine
  cases codec.read line with
  | none => rfl
  | some entry =>
    simp only [Option.bind_some, JournalRecord.ofEntry]
    cases entry.findString "op" with
    | none => rfl
    | some op =>
      by_cases hset : op = "set"
      · subst hset
        cases entry.findString "key" <;> cases entry.find? "value" <;> rfl
      · by_cases hdelete : op = "delete"
        · subst hdelete
          cases entry.findString "key" <;> rfl
        · by_cases hsnapshot : op = "snapshot"
          · subst hsnapshot
            cases entry.findDict "data" <;> rfl
          · simp [hset, hdelete, hsnapshot]

/-- **Replaying a file** computes what its records mean, and counts those behind the last
snapshot.

**Proof sketch.** Induction on the lines, from the last one. -/
theorem replayContents_eq (contents : Bytes) : replayContents codec contents =
    (JournalRecord.meaning (recordsOf codec contents),
      JournalRecord.sinceSnapshot (recordsOf codec contents)) := by
  unfold replayContents recordsOf
  induction LineLog.records newline contents using List.reverseRecOn with
  | nil => rfl
  | append_singleton lines line ih =>
    rw [foldl_append, foldl_cons, foldl_nil, ih, replayLine_eq, filterMap_append]
    cases hline : (codec.read line).bind JournalRecord.ofEntry with
    | none => simp [hline]
    | some r => simp [hline, JournalRecord.meaning_concat, JournalRecord.sinceSnapshot_concat]

lemma write_buildLine {entry : JsonDict} (h : buildLine codec entry ≠ []) :
    codec.write entry = some (buildLine codec entry) := by
  unfold buildLine at h ⊢
  cases hwrite : codec.write entry with
  | none => simp [hwrite] at h
  | some line => rfl

lemma recordsOf_append_line {contents : Bytes} (h : LineLog.Framed newline contents)
    {entry : JsonDict} {r : JournalRecord} (hentry : JournalRecord.ofEntry entry = some r)
    (hline : buildLine codec entry ≠ []) :
    recordsOf codec (contents ++ (buildLine codec entry ++ [newline])) =
      recordsOf codec contents ++ [r] := by
  have hwrite := write_buildLine hline
  unfold recordsOf
  rw [LineLog.records_append_line h (codec.newline_not_mem _ _ hwrite) hline, filterMap_append]
  simp [codec.read_write _ _ hwrite, hentry]

end Codec

end CefCore.Browser
