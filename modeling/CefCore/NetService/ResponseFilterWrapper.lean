import CefCore.Foundations.Run

/-!
# The response filter pipeline

`ResponseFilterWrapper` reads the body of a response from a data pipe, passes it through a filter
of the client and writes what the filter puts out to another pipe. Reading and writing go on
independently: a segment that is ready while a write is outstanding waits in a queue. The object
deletes itself in `Cleanup`.

The filter, the two pipes and the order of their events are arbitrary. Each call of the filter is a
step of its own, because the filter decides how often the loop in `Filter` goes round.

## Main results

* `pipeline_intact`: what is written is what the filter has put out.

## Implementation notes

The object is `none` once it has been deleted, and every access of a member goes through `this`,
which fails then. Destroying the object destroys its watcher and its producer, and a destroyed
watcher or producer does not call back.
-/

namespace CefCore.NetService

open List Fallible

def kBufferSize : Nat := 64 * 1024

def kMinBufferSpace : Nat := 1024

/-- `cef_response_filter_status_t`. -/
inductive FilterStatus where
  | needMoreData
  | done
  | error
  deriving DecidableEq

/-- `mojo::SimpleWatcher` with manual arming: a watcher that has called back is silent until it is
armed again. -/
inductive Watcher where
  | silent
  | armed
  | cancelled
  deriving DecidableEq

/-- The members of `ResponseFilterWrapper`. The producer `forwarder_` holds the writes whose
completion callback has not run. -/
structure ResponseFilterWrapper where
  hasSourceHandle : Bool
  errorCallback : Bool
  forwarder : List (List UInt8)
  sourceWatcher : Watcher
  readPending : Bool
  writePending : Bool
  pendingData : List (List UInt8)
  lastStatus : FilterStatus

/-- The constructor. The caller gives a source handle and an error callback. -/
def ResponseFilterWrapper.new : ResponseFilterWrapper where
  hasSourceHandle := true
  errorCallback := true
  forwarder := []
  sourceWatcher := .silent
  readPending := false
  writePending := false
  pendingData := []
  lastStatus := .needMoreData

/-- The source is not read any more: its handle is reset and its watcher is cancelled. -/
def ResponseFilterWrapper.stopReading (w : ResponseFilterWrapper) : ResponseFilterWrapper :=
  { w with readPending := false, hasSourceHandle := false, sourceWatcher := .cancelled }

/-- What `BeginReadData` gives. The source pipe has ended when a precondition has failed. -/
inductive ReadResult where
  | ok (buffer : List UInt8)
  | shouldWait
  | failedPrecondition
  | failed
  deriving DecidableEq

/-- What a call of the filter leaves: its status, its out values, and the memory behind
`data_out_ptr`. -/
structure FilterAnswer where
  status : FilterStatus
  dataInRead : Nat
  dataOutWritten : Nat
  dataOut : Nat → UInt8

def FilterAnswer.written (a : FilterAnswer) : List UInt8 :=
  (List.range a.dataOutWritten).map a.dataOut

/-- The checks of `Filter` on the out values. -/
def FilterAnswer.Valid (a : FilterAnswer) (dataInSize dataOutSize : Nat) : Prop :=
  a.dataInRead ≤ dataInSize ∧ a.dataOutWritten ≤ dataOutSize ∧
    (a.dataOutWritten = 0 → a.dataInRead = dataInSize)

instance (a : FilterAnswer) (m n : Nat) : Decidable (a.Valid m n) :=
  inferInstanceAs (Decidable (_ ∧ _ ∧ (_ → _)))

/-- The two callers of `Filter`. -/
inductive FilterCaller where
  | onSourceReadable
  | drain

/-- Where the code stands: outside the object, or in a call of the filter. The input that the
filter has not read is empty where `data_in_ptr` is null, and `dataOut` is the output buffer up to
`data_out_offset`. -/
inductive Control where
  | idle
  | filtering (caller : FilterCaller) (dataIn dataOut : List UInt8)

def Control.buffered : Control → List UInt8
  | .idle => []
  | .filtering _ _ dataOut => dataOut

/-- Why a step does not return: it cannot happen now, or it uses the deleted object. -/
inductive Stop where
  | impossible
  | useAfterFree

/-- The object in its surroundings, with what has been seen so far: the bytes that the filter has
written, the segments handed to the producer and those written with success, whether the source has
ended, the calls of `Cleanup` with the object as it was, and the runs of the error callback. -/
structure FilterPipeline where
  wrapper : Option ResponseFilterWrapper
  control : Control
  written : List UInt8
  handed : List (List UInt8)
  completed : List (List UInt8)
  sourceEnded : Bool
  cleanups : List (Bool × ResponseFilterWrapper)
  errorCallbackRuns : Nat

namespace FilterPipeline

def this (s : FilterPipeline) : Except Stop ResponseFilterWrapper :=
  match s.wrapper with
  | some w => .ok w
  | none => .error .useAfterFree

def put (s : FilterPipeline) (w : ResponseFilterWrapper) : FilterPipeline :=
  { s with wrapper := some w }

/-- `ResponseFilterWrapper::CreateOutputHandle`, where `initFilter` and `createDataPipe` are what
the filter and mojo say. -/
def createOutputHandle (w : ResponseFilterWrapper) (initFilter createDataPipe : Bool) :
    Bool × ResponseFilterWrapper :=
  if !initFilter then
    (false, { w with hasSourceHandle := false })
  else if !createDataPipe then
    (false, { w with hasSourceHandle := false })
  else
    (true, { w with sourceWatcher := .armed, readPending := true })

def createResponseFilterHandler (initFilter createDataPipe : Bool) : FilterPipeline :=
  let s : FilterPipeline := ⟨none, .idle, [], [], [], false, [], 0⟩
  match createOutputHandle .new initFilter createDataPipe with
  | (true, w) => s.put w
  | (false, _) => s

def write (data : List UInt8) (s : FilterPipeline) : Except Stop FilterPipeline := do
  let w ← s.this
  if w.writePending then
    -- Only one write at a time is supported.
    pure (s.put { w with pendingData := w.pendingData ++ [data] })
  else
    let s := s.put { w with writePending := true, forwarder := w.forwarder ++ [data] }
    pure { s with handed := s.handed ++ [data] }

def cleanup (success : Bool) (s : FilterPipeline) : Except Stop FilterPipeline := do
  let w ← s.this
  let runs := if !success && w.errorCallback then 1 else 0
  pure { s with
    wrapper := none
    cleanups := s.cleanups ++ [(success, w)]
    errorCallbackRuns := s.errorCallbackRuns + runs }

def maybeSuccess (s : FilterPipeline) : Except Stop FilterPipeline := do
  let w ← s.this
  match w.writePending, w.pendingData with
  | false, next :: rest => write next (s.put { w with pendingData := rest })
  | _, _ =>
    if !w.readPending && !w.writePending then
      cleanup true s
    else
      pure s

/-- `ResponseFilterWrapper::Drain`, up to its call of `Filter` where there is one. -/
def drain (complete : Bool) (s : FilterPipeline) : Except Stop FilterPipeline := do
  let w ← s.this
  let s := s.put w.stopReading
  if !complete then
    cleanup false s
  else if w.lastStatus = .needMoreData then
    -- Let the user write any remaining data.
    pure { s with control := .filtering .drain [] [] }
  else
    maybeSuccess s

/-- `ResponseFilterWrapper::OnSourceReadable`, up to its call of `Filter` where there is one. -/
def onSourceReadable (result : ReadResult) (s : FilterPipeline) : Except Stop FilterPipeline := do
  let w ← s.this
  match result with
  | .shouldWait => pure (s.put { w with sourceWatcher := .armed })
  | .failedPrecondition => drain true s
  | .failed => drain false s
  | .ok buffer => pure { s with control := .filtering .onSourceReadable buffer [] }

/-- What the callers of `Filter` do when it has returned. -/
def filterReturns (caller : FilterCaller) (s : FilterPipeline) : Except Stop FilterPipeline := do
  let s := { s with control := .idle }
  let w ← s.this
  match caller with
  | .onSourceReadable =>
    if w.lastStatus = .error then
      drain false s
    else
      pure (s.put { w with sourceWatcher := .armed })
  | .drain =>
    if w.lastStatus ≠ .done then
      cleanup false s
    else
      maybeSuccess s

/-- One pass of the loop in `ResponseFilterWrapper::Filter`, from the answer of the filter on. -/
def filter (caller : FilterCaller) (dataIn dataOut : List UInt8) (a : FilterAnswer)
    (s : FilterPipeline) : Except Stop FilterPipeline := do
  let w ← s.this
  let dataOutSize := kBufferSize - dataOut.length
  if a.status = .error ∨ ¬ a.Valid dataIn.length dataOutSize then
    filterReturns caller (s.put { w with lastStatus := .error })
  else
    let s := s.put { w with lastStatus := a.status }
    let dataOut := dataOut ++ a.written
    -- The buffer is full or almost full.
    let full := 0 < a.dataOutWritten ∧ kBufferSize - kMinBufferSpace < dataOut.length
    let s ← (if full then write dataOut s else pure s)
    let dataOut := if full then [] else dataOut
    if a.dataInRead < dataIn.length then
      -- Keep going until the user reads all data.
      pure { s with control := .filtering caller (dataIn.drop a.dataInRead) dataOut }
    else if a.dataOutWritten = dataOutSize ∧ a.status = .needMoreData then
      -- Output buffer was filled, but data is still pending.
      pure { s with control := .filtering caller [] dataOut }
    else
      let s ← (if 0 < dataOut.length then write dataOut s else pure s)
      filterReturns caller s

def onWriteComplete (ok : Bool) (s : FilterPipeline) : Except Stop FilterPipeline := do
  let w ← s.this
  let s := s.put { w with writePending := false }
  if !ok then
    cleanup false s
  else
    maybeSuccess s

/-- What can happen: the watcher calls back, the filter answers, the outstanding write ends. -/
inductive Event where
  | sourceReadable (result : ReadResult)
  | filterAnswers (answer : FilterAnswer)
  | writeComplete (ok : Bool)

/-- One step. The members of a deleted object call nobody back. -/
def step (s : FilterPipeline) : Event → Except Stop FilterPipeline
  | .sourceReadable result =>
    match s.control, s.wrapper with
    | .idle, some w =>
      if w.sourceWatcher = .armed then
        onSourceReadable result { s.put { w with sourceWatcher := .silent } with
          sourceEnded := s.sourceEnded || result == .failedPrecondition }
      else
        .error .impossible
    | _, _ => .error .impossible
  | .filterAnswers a =>
    match s.control with
    | .filtering caller dataIn dataOut =>
      filter caller dataIn dataOut a { s with written := s.written ++ a.written }
    | .idle => .error .impossible
  | .writeComplete ok =>
    match s.control, s.wrapper with
    | .idle, some w =>
      match w.forwarder with
      | data :: rest =>
        onWriteComplete ok { s.put { w with forwarder := rest } with
          completed := if ok then s.completed ++ [data] else s.completed }
      | [] => .error .impossible
    | _, _ => .error .impossible

/-! ### What the pipeline promises -/

/-- The pipeline is intact. What has been handed on is what the filter has written, in order, up to
some point; at most one write is outstanding; and `Cleanup` has run at most once. While the object
lives something can still happen to it. -/
structure Intact (s : FilterPipeline) : Prop where
  handed_order : s.handed.flatten <+: s.written
  accounted : ∀ w ∈ s.wrapper,
    s.handed.flatten ++ w.pendingData.flatten ++ s.control.buffered = s.written
  one_write : ∀ w ∈ s.wrapper, w.forwarder.length ≤ 1
  one_cleanup : s.cleanups.length ≤ 1
  untouched : ∀ e, s.step e ≠ .error .useAfterFree
  stopped : s.cleanups ≠ [] → ∀ e, s.step e = .error .impossible
  going_on : s.wrapper ≠ none → ∃ e s', s.step e = .ok s'
  success : ∀ w, (true, w) ∈ s.cleanups →
    s.sourceEnded ∧ w.lastStatus = .done ∧ w.pendingData = [] ∧ w.forwarder = [] ∧
      s.completed = s.handed ∧ s.handed.flatten = s.written ∧ s.errorCallbackRuns = 0
  failure : ∀ w, (false, w) ∈ s.cleanups → s.errorCallbackRuns = 1

/-! ### The invariant -/

structure Installed (s : FilterPipeline) (w : ResponseFilterWrapper) : Prop where
  wrapper_eq : s.wrapper = some w
  errorCallback : w.errorCallback = true
  cleanups : s.cleanups = []
  runs : s.errorCallbackRuns = 0

/-- Every segment handed to the producer has been written or is outstanding, `writePending` says
whether one is, and an armed watcher watches a source that is being read. -/
structure Books (s : FilterPipeline) (w : ResponseFilterWrapper) : Prop extends Installed s w where
  completed : s.completed ++ w.forwarder = s.handed
  outstanding : w.forwarder.length = w.writePending.toNat
  watching : w.sourceWatcher = .armed → w.readPending = true

/-- What the code at its place has established. Between two calls the source is being watched, or it
has ended, the filter is done and the last writes are on their way. -/
def Stage (sourceEnded : Bool) (w : ResponseFilterWrapper) : Control → Prop
  | .idle =>
    w.readPending = true ∧ w.sourceWatcher = .armed ∧ w.lastStatus ≠ .error ∨
      w.readPending = false ∧ sourceEnded = true ∧ w.lastStatus = .done ∧ w.writePending = true
  | .filtering .onSourceReadable _ _ => w.readPending = true
  | .filtering .drain _ _ => w.readPending = false ∧ sourceEnded = true

/-- The object is alive. Nothing waits in the queue unless a write is outstanding: this is what
keeps the segments in order. -/
structure Live (s : FilterPipeline) (w : ResponseFilterWrapper) : Prop extends Books s w where
  bytes : s.handed.flatten ++ w.pendingData.flatten ++ s.control.buffered = s.written
  queue : w.writePending = false → w.pendingData = []
  stage : Stage s.sourceEnded w s.control

/-- `Cleanup(success)` has run on the object `w`. -/
structure Ended (s : FilterPipeline) (success : Bool) (w : ResponseFilterWrapper) : Prop where
  wrapper_eq : s.wrapper = none
  control_eq : s.control = .idle
  cleanups : s.cleanups = [(success, w)]
  handed_order : s.handed.flatten <+: s.written
  failed : success = false → s.errorCallbackRuns = 1
  succeeded : success = true → s.sourceEnded = true ∧ w.lastStatus = .done ∧ w.pendingData = [] ∧
    w.forwarder = [] ∧ s.completed = s.handed ∧ s.handed.flatten = s.written ∧
    s.errorCallbackRuns = 0

def Inv (s : FilterPipeline) : Prop :=
  (∃ w, s.Live w) ∨ (∃ success w, s.Ended success w) ∨ s = createResponseFilterHandler false false

def Sound (x : Except Stop FilterPipeline) : Prop := ∃ s, x = .ok s ∧ s.Inv

variable {s : FilterPipeline} {w : ResponseFilterWrapper}

lemma Installed.this_eq (h : s.Installed w) : s.this = .ok w := by
  rw [this, h.wrapper_eq]

@[simp] lemma this_put : (s.put w).this = .ok w := rfl

lemma cleanup_false_spec (h : s.Installed w) (hhanded : s.handed.flatten <+: s.written)
    (hidle : s.control = .idle) : Sound (s.cleanup false) := by
  refine ⟨_, by rw [cleanup, h.this_eq]; rfl, .inr (.inl ⟨false, w, ?_⟩)⟩
  exact {
    wrapper_eq := rfl
    control_eq := hidle
    cleanups := by simp [h.cleanups]
    handed_order := hhanded
    failed := fun _ => by simp [h.runs, h.errorCallback]
    succeeded := nofun }

lemma write_of_pending (h : s.this = .ok w) (hw : w.writePending = true) (data : List UInt8) :
    s.write data = .ok (s.put { w with pendingData := w.pendingData ++ [data] }) := by
  rw [write, h]
  simp [hw]

lemma write_of_not_pending (h : s.this = .ok w) (hw : w.writePending = false) (data : List UInt8) :
    s.write data = .ok { s.put { w with
      writePending := true, forwarder := w.forwarder ++ [data] } with
        handed := s.handed ++ [data] } := by
  rw [write, h]
  simp [hw]
  rfl

variable {caller : FilterCaller} {data dataIn dataOut : List UInt8}

section

variable (h : s.Books w)
include h

/-- **`Write` keeps the books**, and a write is outstanding then. The segment goes behind all others
if nothing waits without an outstanding write. -/
lemma write_spec (hqueue : w.writePending = false → w.pendingData = [])
    (hbytes : s.handed.flatten ++ w.pendingData.flatten ++ data = s.written) :
    ∃ s' w', s.write data = .ok s' ∧ s'.Books w' ∧ w'.writePending = true ∧
      s'.handed.flatten ++ w'.pendingData.flatten = s'.written ∧ s'.control = s.control ∧
      s'.sourceEnded = s.sourceEnded ∧ w'.readPending = w.readPending ∧
      w'.lastStatus = w.lastStatus := by
  cases hw : w.writePending with
  | true =>
    refine ⟨_, { w with pendingData := w.pendingData ++ [data] },
      write_of_pending h.this_eq hw data, ?_, hw, ?_, rfl, rfl, rfl, rfl⟩
    · exact { h with wrapper_eq := rfl }
    · simpa [put] using hbytes
  | false =>
    have hnone : w.forwarder = [] := by simpa [hw] using h.outstanding
    refine ⟨_, { w with writePending := true, forwarder := w.forwarder ++ [data] },
      write_of_not_pending h.this_eq hw data, ?_, rfl, ?_, rfl, rfl, rfl, rfl⟩
    · exact { h with
        wrapper_eq := rfl
        completed := by rw [← h.completed, append_assoc]; rfl
        outstanding := by rw [hnone]; rfl }
    · simpa [put, hqueue hw] using hbytes

/-- **`MaybeSuccess`** declares success only when the source has ended, the filter is done, and
every segment has been written.

**Proof sketch.** If no write is outstanding, a segment that waits is the next one to be handed on;
if nothing waits, either reading goes on or the stage says that all is done. -/
lemma maybeSuccess_spec (hidle : s.control = .idle)
    (hbytes : s.handed.flatten ++ w.pendingData.flatten = s.written)
    (hstage : w.readPending = true ∧ w.sourceWatcher = .armed ∧ w.lastStatus ≠ .error ∨
      w.readPending = false ∧ s.sourceEnded = true ∧ w.lastStatus = .done) :
    Sound s.maybeSuccess := by
  have hstart : s.maybeSuccess = match w.writePending, w.pendingData with
      | false, next :: rest => write next (s.put { w with pendingData := rest })
      | _, _ => if !w.readPending && !w.writePending then cleanup true s else pure s := by
    rw [maybeSuccess, h.this_eq]
    rfl
  rw [hstart]
  cases hw : w.writePending with
  | true =>
    simp only [Bool.not_true, Bool.and_false, Bool.false_eq_true, if_false]
    refine ⟨s, rfl, .inl ⟨w, { h with bytes := ?_, queue := ?_, stage := ?_ }⟩⟩
    · rw [hidle]
      simpa [Control.buffered] using hbytes
    · exact fun hnot => absurd (hw.symm.trans hnot) nofun
    · rw [hidle]
      exact hstage.imp id fun hdone => ⟨hdone.1, hdone.2.1, hdone.2.2, hw⟩
  | false =>
    have hnone : w.forwarder = [] := by simpa [hw] using h.outstanding
    cases hq : w.pendingData with
    | cons next rest =>
      refine ⟨_, write_of_not_pending this_put rfl next, .inl ⟨{ w with
        pendingData := rest, writePending := true, forwarder := w.forwarder ++ [next] }, ?_⟩⟩
      exact {
        wrapper_eq := rfl
        completed := by rw [← append_assoc]; exact congrArg (· ++ [next]) h.completed
        outstanding := by simp [hnone]
        watching := h.watching
        errorCallback := h.errorCallback
        cleanups := h.cleanups
        runs := h.runs
        bytes := by
          rw [hq] at hbytes
          simpa [put, hidle, Control.buffered] using hbytes
        queue := nofun
        stage := by
          simp only [put, hidle]
          exact hstage.imp id fun hdone => ⟨hdone.1, hdone.2.1, hdone.2.2, rfl⟩ }
    | nil =>
      rcases hstage with ⟨hread, hwatch, hstatus⟩ | ⟨hread, hended, hdone⟩
      · rw [hread]
        refine ⟨s, rfl, .inl ⟨w, { h with bytes := ?_, queue := fun _ => hq, stage := ?_ }⟩⟩
        · rw [hidle]
          simpa [Control.buffered] using hbytes
        · rw [hidle]
          exact .inl ⟨hread, hwatch, hstatus⟩
      · rw [hread]
        have hall : s.handed.flatten = s.written := by simpa [hq] using hbytes
        refine ⟨_, by rw [cleanup, h.this_eq]; rfl, .inr (.inl ⟨true, w, ?_⟩)⟩
        exact {
          wrapper_eq := rfl
          control_eq := hidle
          cleanups := by simp [h.cleanups]
          handed_order := hall ▸ prefix_refl _
          failed := nofun
          succeeded := fun _ => ⟨hended, hdone, hq, hnone, by simpa [hnone] using h.completed, hall,
            by simp [h.runs]⟩ }

lemma Books.stopReading : (s.put w.stopReading).Books w.stopReading :=
  { h with wrapper_eq := rfl, watching := nofun }

lemma drain_false_spec (hhanded : s.handed.flatten <+: s.written)
    (hidle : s.control = .idle) : Sound (s.drain false) := by
  rw [drain, h.this_eq]
  exact cleanup_false_spec h.stopReading.toInstalled hhanded hidle

/-- **`Drain`** at the end of the source asks the filter for the rest, unless it is done. -/
lemma drain_true_spec (hidle : s.control = .idle)
    (hbytes : s.handed.flatten ++ w.pendingData.flatten = s.written)
    (hqueue : w.writePending = false → w.pendingData = []) (hended : s.sourceEnded = true)
    (hstatus : w.lastStatus ≠ .error) : Sound (s.drain true) := by
  have hbooks := h.stopReading
  rw [drain, h.this_eq]
  simp only [ok_bind, Bool.not_true, Bool.false_eq_true, if_false]
  split
  · refine ⟨_, rfl, .inl ⟨w.stopReading, { hbooks with
      wrapper_eq := rfl, bytes := ?_, queue := hqueue, stage := ⟨rfl, hended⟩ }⟩⟩
    simpa [put, ResponseFilterWrapper.stopReading, Control.buffered] using hbytes
  · rename_i hmore
    have hdone : w.lastStatus = .done := by
      cases hlast : w.lastStatus <;> simp_all
    exact maybeSuccess_spec hbooks hidle hbytes (.inr ⟨rfl, hended, hdone⟩)

lemma filterReturns_spec (hhanded : s.handed.flatten <+: s.written)
    (hbytes : w.lastStatus ≠ .error → s.handed.flatten ++ w.pendingData.flatten = s.written)
    (hqueue : w.writePending = false → w.pendingData = [])
    (hstage : Stage s.sourceEnded w (.filtering caller [] [])) :
    Sound (s.filterReturns caller) := by
  have hbooks : FilterPipeline.Books { s with control := .idle } w := { h with }
  rw [filterReturns, hbooks.this_eq]
  cases caller with
  | onSourceReadable =>
    simp only [ok_bind]
    split
    · exact drain_false_spec hbooks hhanded rfl
    · rename_i hstatus
      refine ⟨_, rfl, .inl ⟨{ w with sourceWatcher := .armed }, { hbooks with
        wrapper_eq := rfl, watching := fun _ => hstage, bytes := ?_, queue := hqueue
        stage := .inl ⟨hstage, rfl, hstatus⟩ }⟩⟩
      simpa [put, Control.buffered] using hbytes hstatus
  | drain =>
    simp only [ok_bind]
    split
    · exact cleanup_false_spec hbooks.toInstalled hhanded rfl
    · rename_i hdone
      have hdone : w.lastStatus = .done := not_not.mp hdone
      have hstatus : w.lastStatus ≠ .error := by simp [hdone]
      exact maybeSuccess_spec hbooks rfl (hbytes hstatus) (.inr ⟨hstage.1, hstage.2, hdone⟩)

lemma write_ite_spec (hqueue : w.writePending = false → w.pendingData = [])
    (hbytes : s.handed.flatten ++ w.pendingData.flatten ++ data = s.written)
    (c : Prop) [Decidable c] :
    ∃ s' w', (if c then s.write data else pure s) = .ok s' ∧ s'.Books w' ∧
      (w'.writePending = false → w'.pendingData = []) ∧
      s'.handed.flatten ++ w'.pendingData.flatten ++ (if c then [] else data) = s'.written ∧
      s'.control = s.control ∧ s'.sourceEnded = s.sourceEnded ∧
      w'.readPending = w.readPending ∧ w'.lastStatus = w.lastStatus := by
  by_cases hc : c
  · obtain ⟨s', w', hwrite, hbooks, hpending, hbytes', hframe⟩ := write_spec h hqueue hbytes
    refine ⟨s', w', by rw [if_pos hc, hwrite], hbooks, ?_, ?_, hframe⟩
    · exact fun hnot => absurd (hpending.symm.trans hnot) nofun
    · rw [if_pos hc, append_nil, hbytes']
  · refine ⟨s, w, by rw [if_neg hc]; rfl, h, hqueue, ?_, rfl, rfl, rfl, rfl⟩
    rw [if_neg hc, hbytes]

end

lemma Stage.filtering_congr {ended : Bool} {w' : ResponseFilterWrapper}
    {dataIn' dataOut' : List UInt8} (h : Stage ended w (.filtering caller dataIn dataOut))
    (hread : w'.readPending = w.readPending) :
    Stage ended w' (.filtering caller dataIn' dataOut') := by
  cases caller with
  | onSourceReadable => exact hread.trans h
  | drain => exact ⟨hread.trans h.1, h.2⟩

/-- **One pass of the loop in `Filter` keeps the invariant.**

**Proof sketch.** If the filter fails, the object is cleaned up. Otherwise what the filter has
written goes into the output buffer; the buffer is written or kept, once when it is almost full and
once at the end of the loop. -/
lemma filter_spec {a : FilterAnswer}
    (h : s.Books w) (hqueue : w.writePending = false → w.pendingData = [])
    (hbytes : s.handed.flatten ++ w.pendingData.flatten ++ dataOut ++ a.written = s.written)
    (hstage : Stage s.sourceEnded w (.filtering caller dataIn dataOut)) :
    Sound (s.filter caller dataIn dataOut a) := by
  rw [filter, h.this_eq]
  simp only [ok_bind]
  split
  · refine filterReturns_spec (w := { w with lastStatus := .error }) { h with wrapper_eq := rfl } ?_
      (absurd rfl) hqueue (hstage.filtering_congr rfl)
    rw [append_assoc, append_assoc] at hbytes
    exact ⟨_, hbytes⟩
  · rename_i hvalid
    have hbytes₀ : s.handed.flatten ++ w.pendingData.flatten ++ (dataOut ++ a.written) =
        s.written :=
      (append_assoc ..).symm.trans hbytes
    obtain ⟨s₁, w₁, hs₁, hbooks₁, hqueue₁, hbytes₁, hcontrol₁, hended₁, hread₁, hlast₁⟩ :=
      write_ite_spec (s := s.put { w with lastStatus := a.status })
        (w := { w with lastStatus := a.status }) { h with wrapper_eq := rfl } hqueue hbytes₀
        (0 < a.dataOutWritten ∧ kBufferSize - kMinBufferSpace < (dataOut ++ a.written).length)
    rw [hs₁]
    simp only [ok_bind]
    generalize (if 0 < a.dataOutWritten ∧
      kBufferSize - kMinBufferSpace < (dataOut ++ a.written).length then []
      else dataOut ++ a.written) = rest at hbytes₁ ⊢
    have hstage₁ : ∀ dataIn' dataOut',
        Stage s₁.sourceEnded w₁ (.filtering caller dataIn' dataOut') := fun _ _ => by
      rw [hended₁]
      exact hstage.filtering_congr hread₁
    have hagain : ∀ dataIn',
        FilterPipeline.Live { s₁ with control := .filtering caller dataIn' rest } w₁ := fun _ =>
      { hbooks₁ with bytes := hbytes₁, queue := hqueue₁, stage := hstage₁ _ _ }
    split
    · exact ⟨_, rfl, .inl ⟨w₁, hagain _⟩⟩
    · split
      · exact ⟨_, rfl, .inl ⟨w₁, hagain _⟩⟩
      · obtain ⟨s₂, w₂, hs₂, hbooks₂, hqueue₂, hbytes₂, hcontrol₂, hended₂, hread₂, hlast₂⟩ :=
          write_ite_spec hbooks₁ hqueue₁ hbytes₁ (0 < rest.length)
        rw [hs₂]
        have hall : s₂.handed.flatten ++ w₂.pendingData.flatten = s₂.written := by
          split at hbytes₂
          · simpa using hbytes₂
          · rename_i hempty
            have hnil : rest = [] := length_eq_zero_iff.mp (Nat.eq_zero_of_not_pos hempty)
            simpa [hnil] using hbytes₂
        refine filterReturns_spec hbooks₂ ⟨_, hall⟩ (fun _ => hall) hqueue₂ ?_
        rw [hended₂]
        exact (hstage₁ [] []).filtering_congr hread₂

section

variable (h : s.Live w)
include h

lemma Live.handed_order : s.handed.flatten <+: s.written :=
  ⟨_, (append_assoc ..).symm.trans h.bytes⟩

section

variable (hidle : s.control = .idle)
include hidle

lemma Live.bytes_idle : s.handed.flatten ++ w.pendingData.flatten = s.written := by
  simpa [hidle, Control.buffered] using h.bytes

lemma Live.reading_of_armed (harmed : w.sourceWatcher = .armed) :
    w.readPending = true ∧ w.lastStatus ≠ .error := by
  have hread := h.watching harmed
  have hstage := h.stage
  rw [hidle] at hstage
  obtain ⟨_, _, hstatus⟩ | ⟨hnot, _⟩ := hstage
  · exact ⟨hread, hstatus⟩
  · exact absurd (hread.symm.trans hnot) nofun

lemma sourceReadable_spec (harmed : w.sourceWatcher = .armed) (result : ReadResult) :
    Sound (s.step (.sourceReadable result)) := by
  obtain ⟨hread, hstatus⟩ := h.reading_of_armed hidle harmed
  have hbytes := h.bytes_idle hidle
  have hbooks : FilterPipeline.Books { s.put { w with sourceWatcher := .silent } with
      sourceEnded := s.sourceEnded || result == .failedPrecondition }
      { w with sourceWatcher := .silent } := { h.toBooks with wrapper_eq := rfl, watching := nofun }
  simp only [step, hidle, h.wrapper_eq, harmed, if_true]
  rw [onSourceReadable, hbooks.this_eq]
  simp only [ok_bind]
  cases result with
  | shouldWait =>
    refine ⟨_, rfl, .inl ⟨{ w with sourceWatcher := .armed }, { hbooks with
      wrapper_eq := rfl, watching := fun _ => hread, bytes := ?_, queue := h.queue, stage := ?_ }⟩⟩
    · simpa [put, hidle, Control.buffered] using hbytes
    · simp only [put, hidle]
      exact .inl ⟨hread, rfl, hstatus⟩
  | failedPrecondition =>
    exact drain_true_spec hbooks hidle hbytes h.queue (by simp) hstatus
  | failed => exact drain_false_spec hbooks h.handed_order hidle
  | ok buffer =>
    refine ⟨_, rfl, .inl ⟨{ w with sourceWatcher := .silent }, { hbooks with
      wrapper_eq := rfl, bytes := ?_, queue := h.queue, stage := hread }⟩⟩
    simpa [put, Control.buffered] using hbytes

lemma writeComplete_spec
    {rest : List (List UInt8)} (hwrite : w.forwarder = data :: rest) (ok : Bool) :
    Sound (s.step (.writeComplete ok)) := by
  have hone : rest = [] := by
    have hlength := h.outstanding
    have hle : w.writePending.toNat ≤ 1 := Bool.toNat_le _
    rw [hwrite, length_cons] at hlength
    exact length_eq_zero_iff.mp (by omega)
  subst hone
  have hbytes := h.bytes_idle hidle
  simp only [step, hidle, h.wrapper_eq, hwrite]
  rw [onWriteComplete]
  simp only [put, this, ok_bind]
  cases ok with
  | false =>
    refine cleanup_false_spec (w := { w with forwarder := [], writePending := false }) ?_
      h.handed_order hidle
    exact { h.toInstalled with wrapper_eq := rfl }
  | true =>
    refine maybeSuccess_spec (w := { w with forwarder := [], writePending := false }) ?_ hidle
      hbytes ?_
    · exact { h.toBooks with
        wrapper_eq := rfl
        completed := by
          rw [append_nil]
          exact hwrite ▸ h.completed
        outstanding := rfl }
    · have hstage := h.stage
      rw [hidle] at hstage
      exact hstage.imp id fun hdone => ⟨hdone.1, hdone.2.1, hdone.2.2.1⟩
end

lemma filterAnswers_spec
    (hcontrol : s.control = .filtering caller dataIn dataOut) (a : FilterAnswer) :
    Sound (s.step (.filterAnswers a)) := by
  have hbytes := h.bytes
  have hstage := h.stage
  rw [hcontrol] at hbytes hstage
  simp only [step, hcontrol]
  exact filter_spec { h.toBooks with } h.queue (congrArg (· ++ a.written) hbytes) hstage

end

lemma Ended.step_eq {success : Bool} (h : s.Ended success w) (e : Event) :
    s.step e = .error .impossible := by
  cases e <;> simp [step, h.control_eq, h.wrapper_eq]

/-- **Every step keeps the invariant**, and no step uses the object after it has been deleted. -/
theorem step_sound (h : s.Inv) (e : Event) : s.step e = .error .impossible ∨ Sound (s.step e) := by
  obtain ⟨w, hlive⟩ | ⟨success, w, hended⟩ | rfl := h
  · cases hcontrol : s.control with
    | idle =>
      cases e with
      | sourceReadable result =>
        by_cases harmed : w.sourceWatcher = .armed
        · exact .inr (sourceReadable_spec hlive hcontrol harmed result)
        · refine .inl ?_
          simp [step, hcontrol, hlive.wrapper_eq, if_neg harmed]
      | filterAnswers a =>
        refine .inl ?_
        simp [step, hcontrol]
      | writeComplete ok =>
        cases hwrite : w.forwarder with
        | nil =>
          refine .inl ?_
          simp [step, hcontrol, hlive.wrapper_eq, hwrite]
        | cons data rest => exact .inr (writeComplete_spec hlive hcontrol hwrite ok)
    | filtering caller dataIn dataOut =>
      cases e with
      | sourceReadable result =>
        refine .inl ?_
        simp [step, hcontrol]
      | filterAnswers a => exact .inr (filterAnswers_spec hlive hcontrol a)
      | writeComplete ok =>
        refine .inl ?_
        simp [step, hcontrol]
  · exact .inl (hended.step_eq e)
  · refine .inl ?_
    cases e <;> rfl

lemma Live.exists_step (h : s.Live w) : ∃ e s', s.step e = .ok s' := by
  have hstage := h.stage
  cases hcontrol : s.control with
  | idle =>
    rw [hcontrol] at hstage
    obtain ⟨_, harmed, _⟩ | ⟨_, _, _, hpending⟩ := hstage
    · obtain ⟨s', hs', _⟩ := sourceReadable_spec h hcontrol harmed .shouldWait
      exact ⟨_, s', hs'⟩
    · have hone : w.forwarder.length = 1 := by rw [h.outstanding, hpending]; rfl
      obtain ⟨data, hwrite⟩ := length_eq_one_iff.mp hone
      obtain ⟨s', hs', _⟩ := writeComplete_spec h hcontrol hwrite true
      exact ⟨_, s', hs'⟩
  | filtering caller dataIn dataOut =>
    obtain ⟨s', hs', _⟩ := filterAnswers_spec h hcontrol ⟨.error, 0, 0, fun _ => 0⟩
    exact ⟨_, s', hs'⟩

lemma Inv.intact (h : s.Inv) : s.Intact := by
  have huntouched : ∀ e, s.step e ≠ .error .useAfterFree := by
    intro e hfree
    obtain himpossible | ⟨s', hs', _⟩ := step_sound h e
    · exact absurd (hfree.symm.trans himpossible) nofun
    · exact absurd (hfree.symm.trans hs') nofun
  obtain ⟨w, hlive⟩ | ⟨success, w, hended⟩ | rfl := h
  · exact {
      handed_order := hlive.handed_order
      accounted := by
        intro w' hw'
        obtain rfl := Option.some.inj (hlive.wrapper_eq.symm.trans hw')
        exact hlive.bytes
      one_write := by
        intro w' hw'
        obtain rfl := Option.some.inj (hlive.wrapper_eq.symm.trans hw')
        exact hlive.outstanding ▸ Bool.toNat_le _
      one_cleanup := by simp [hlive.cleanups]
      untouched := huntouched
      stopped := absurd hlive.cleanups
      going_on := fun _ => hlive.exists_step
      success := by simp [hlive.cleanups]
      failure := by simp [hlive.cleanups] }
  · exact {
      handed_order := hended.handed_order
      accounted := by simp [hended.wrapper_eq]
      one_write := by simp [hended.wrapper_eq]
      one_cleanup := by simp [hended.cleanups]
      untouched := huntouched
      stopped := fun _ => hended.step_eq
      going_on := absurd hended.wrapper_eq
      success := by
        intro w' hw'
        rw [hended.cleanups, mem_singleton, Prod.mk.injEq] at hw'
        obtain ⟨htrue, rfl⟩ := hw'
        exact hended.succeeded htrue.symm
      failure := by
        intro w' hw'
        rw [hended.cleanups, mem_singleton, Prod.mk.injEq] at hw'
        exact hended.failed hw'.1.symm }
  · exact {
      handed_order := prefix_refl _
      accounted := nofun
      one_write := nofun
      one_cleanup := by decide
      untouched := huntouched
      stopped := absurd rfl
      going_on := absurd rfl
      success := nofun
      failure := nofun }

lemma createResponseFilterHandler_inv (initFilter createDataPipe : Bool) :
    (createResponseFilterHandler initFilter createDataPipe).Inv := by
  cases initFilter with
  | false => exact .inr (.inr rfl)
  | true =>
    cases createDataPipe with
    | false => exact .inr (.inr rfl)
    | true =>
      refine .inl ⟨_, {
        wrapper_eq := rfl
        errorCallback := rfl
        cleanups := rfl
        runs := rfl
        completed := rfl
        outstanding := rfl
        watching := fun _ => rfl
        bytes := rfl
        queue := fun _ => rfl
        stage := .inl ⟨rfl, rfl, nofun⟩ }⟩

/-- **The pipeline is intact in every reachable state**, whatever the source, the filter and the
producer do, and in whatever order. -/
theorem pipeline_intact {initFilter createDataPipe : Bool} {events : List Event}
    (h : events.foldlM step (createResponseFilterHandler initFilter createDataPipe) = .ok s) :
    s.Intact := by
  have hinv : s.Inv := by
    refine run_invariant (fun t e t' hI ht => ?_)
      (createResponseFilterHandler_inv initFilter createDataPipe) h
    obtain himpossible | ⟨t'', ht'', hI'⟩ := step_sound hI e
    · exact absurd (ht.symm.trans himpossible) nofun
    · exact Except.ok.inj (ht.symm.trans ht'') ▸ hI'
  exact hinv.intact

/-- One chunk passes the filter, which keeps a byte until the source has ended. Both writes
succeed. -/
def filteredBody : List Event :=
  [.sourceReadable (.ok [97]), .filterAnswers ⟨.needMoreData, 1, 1, fun _ => 65⟩,
    .sourceReadable .shouldWait, .sourceReadable .failedPrecondition,
    .filterAnswers ⟨.done, 0, 1, fun _ => 33⟩, .writeComplete true, .writeComplete true]

theorem pipeline_intact_filteredBody :
    ∃ s, filteredBody.foldlM step (createResponseFilterHandler true true) = .ok s ∧
      s.cleanups.map Prod.fst = [true] ∧ s.handed = [[65], [33]] ∧ s.Intact := by
  have hrun : filteredBody.foldlM step (createResponseFilterHandler true true) = .ok _ := rfl
  exact ⟨_, hrun, by decide, by decide, pipeline_intact hrun⟩

/-- Two chunks pass the filter while the first write is outstanding; then this write fails. -/
def failedWrite : List Event :=
  [.sourceReadable (.ok [97]), .filterAnswers ⟨.needMoreData, 1, 1, fun _ => 65⟩,
    .sourceReadable (.ok [98]), .filterAnswers ⟨.needMoreData, 1, 1, fun _ => 66⟩,
    .writeComplete false]

/-- What waits behind a write that fails is never handed on. -/
theorem failed_write_drops_output :
    ∃ s, failedWrite.foldlM step (createResponseFilterHandler true true) = .ok s ∧
      s.cleanups.map Prod.fst = [false] ∧ s.written = [65, 66] ∧ s.handed.flatten = [65] :=
  ⟨_, rfl, by decide, by decide, by decide⟩

end FilterPipeline

end CefCore.NetService
