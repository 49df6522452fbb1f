import CefCore.NetService.ResponseFilterWrapper
import Mathlib.Algebra.GroupWithZero.Nat
import Mathlib.Data.List.Induction

/-!
# The buffers of the response filter

The loop in `ResponseFilterWrapper::Filter` gives the filter a pointer into a chunk of the source and
a pointer into an output buffer, and moves both by what the filter says it has read and written. An
output buffer that is full or almost full is handed to `Write`, and a new one takes its place.

## Main results

* `filter_loop`, `filter_follows_loop`: nothing is lost or written out of bounds.

## Implementation notes

The filter may write to all of the memory that it is given, whatever it says it has written. A pointer
into the chunk is a position in it.
-/

namespace CefCore.NetService

open List

/-- The local variables of `Filter` that stay from one pass to the next, with `last_status_`, the
segments handed to `Write`, and whether the loop goes on. -/
structure FilterLoop where
  dataInPtr : Option Nat
  dataInSize : Nat
  dataOut : Option (List UInt8)
  dataOutOffset : Nat
  lastStatus : FilterStatus
  segments : List (List UInt8)
  running : Bool

namespace FilterLoop

def start (size : Nat) (lastStatus : FilterStatus) : FilterLoop where
  dataInPtr := if 0 < size then some 0 else none
  dataInSize := size
  dataOut := none
  dataOutOffset := 0
  lastStatus := lastStatus
  segments := []
  running := true

/-- The output buffer that a pass begins with: a new one if there is none. -/
def buffer (l : FilterLoop) : List UInt8 := l.dataOut.getD (List.replicate kBufferSize 0)

/-- `data_out_size`, the size of the memory behind `data_out_ptr`. -/
def dataOutSize (l : FilterLoop) : Nat := kBufferSize - l.dataOutOffset

def callFilter (a : FilterAnswer) (l : FilterLoop) : FilterLoop :=
  { l with
    dataOut := some (l.buffer.take l.dataOutOffset ++ (List.range l.dataOutSize).map a.dataOut)
    lastStatus := a.status }

/-- `Write(std::move(data_out))`, with the buffer cut behind the data that has been received. -/
def write (l : FilterLoop) : FilterLoop :=
  { l with
    segments := l.segments ++ (l.dataOut.map fun buffer => buffer.take l.dataOutOffset).toList
    dataOut := none }

def stop (l : FilterLoop) : FilterLoop := { l with running := false }

/-- The loop ends because of wrong out values. -/
def fail (l : FilterLoop) : FilterLoop := { l with lastStatus := .error, running := false }

def receive (dataOutWritten : Nat) (l : FilterLoop) : FilterLoop :=
  if 0 < dataOutWritten then
    let l := { l with dataOutOffset := l.dataOutOffset + dataOutWritten }
    if kBufferSize - kMinBufferSpace < l.dataOutOffset then
      -- The buffer is full or almost full.
      { l.write with dataOutOffset := 0 }
    else l
  else l

/-- The input goes on behind what the filter has read. -/
def consume (dataInRead : Nat) (l : FilterLoop) : FilterLoop :=
  if dataInRead < l.dataInSize then
    { l with
      dataInPtr := l.dataInPtr.map (· + dataInRead), dataInSize := l.dataInSize - dataInRead }
  else if l.dataInPtr.isSome then
    -- Clear the input buffer.
    { l with dataInPtr := none, dataInSize := 0 }
  else l

def pass (a : FilterAnswer) (l : FilterLoop) : FilterLoop :=
  let dataInSize := l.dataInSize
  let dataOutSize := l.dataOutSize
  let l := l.callFilter a
  if a.status = .error then l.stop
  else if dataInSize < a.dataInRead then l.fail
  else if dataOutSize < a.dataOutWritten then l.fail
  else if a.dataOutWritten = 0 ∧ a.dataInRead ≠ dataInSize then l.fail
  else
    let l := (l.receive a.dataOutWritten).consume a.dataInRead
    -- Keep going until the user reads all data.
    if a.dataInRead < dataInSize then l
    -- Output buffer was filled, but data is still pending.
    else if a.dataOutWritten = dataOutSize ∧ a.status = .needMoreData then l
    -- Write the last of the data that we've received.
    else if 0 < l.dataOutOffset then l.write.stop
    else l.stop

/-- The next answer of the filter, while the loop goes on. -/
def step (l : FilterLoop) (a : FilterAnswer) : Option FilterLoop :=
  if l.running then some (l.pass a) else none

/-- The number of bytes that some answers say have been read. -/
def consumed (as : List FilterAnswer) : Nat := (as.map FilterAnswer.dataInRead).sum

def written (as : List FilterAnswer) : List UInt8 := as.flatMap FilterAnswer.written

/-- The output buffer has a window for the filter, and behind the segments handed to `Write` the bytes in
front of the window are those that have been written. -/
structure Buffered (bytes : List UInt8) (l : FilterLoop) : Prop where
  inside : l.dataOutOffset + l.dataOutSize = l.buffer.length
  room : kMinBufferSpace ≤ l.dataOutSize
  fresh : l.dataOut = none → l.dataOutOffset = 0
  kept : l.segments.flatten ++ l.buffer.take l.dataOutOffset = bytes

/-- What a call of the filter gets, after some answers: the part of the chunk that has not been
consumed, or nothing, and a window of the output buffer, behind the bytes that have been written and not
been handed to `Write`. -/
structure Offers (size : Nat) (as : List FilterAnswer) (l : FilterLoop) : Prop
    extends Buffered (written as) l where
  consumed_le : consumed as ≤ size
  input : l.dataInPtr = if consumed as < size then some (consumed as) else none
  inputSize : l.dataInSize = size - consumed as

variable {size : Nat} {as : List FilterAnswer} {bytes : List UInt8} {l : FilterLoop}
  {a : FilterAnswer}

lemma consumed_append : consumed (as ++ [a]) = consumed as + a.dataInRead := by
  rw [consumed, map_append, sum_append]
  exact congrArg (consumed as + ·) (Nat.add_zero _)

lemma written_append : written (as ++ [a]) = written as ++ a.written := by
  rw [written, flatMap_append]
  exact congrArg (written as ++ ·) (append_nil _)

lemma length_written : a.written.length = a.dataOutWritten := by
  rw [FilterAnswer.written, length_map, length_range]

lemma kMinBufferSpace_le : kMinBufferSpace ≤ kBufferSize := by decide

lemma kMinBufferSpace_pos : 0 < kMinBufferSpace := by decide

lemma start_offers (size : Nat) (lastStatus : FilterStatus) :
    (start size lastStatus).Offers size [] where
  inside := by simp [start, dataOutSize, buffer]
  room := kMinBufferSpace_le
  fresh := fun _ => rfl
  kept := rfl
  consumed_le := Nat.zero_le size
  input := rfl
  inputSize := rfl

/-! ### The output buffer -/

section

variable (h : l.Buffered bytes)
include h

lemma Buffered.length_buffer : l.buffer.length = kBufferSize := by
  have hinside := h.inside
  have hroom := h.room
  have hpos := kMinBufferSpace_pos
  unfold dataOutSize at hinside hroom
  omega

lemma Buffered.length_front : (l.buffer.take l.dataOutOffset).length = l.dataOutOffset := by
  have hinside := h.inside
  rw [length_take]
  omega

lemma Buffered.take_callFilter {n : Nat} (hn : n ≤ l.dataOutSize) :
    (l.callFilter a).buffer.take (l.dataOutOffset + n) =
      l.buffer.take l.dataOutOffset ++ (List.range n).map a.dataOut := by
  have hlength := h.length_front
  have hbuffer : (l.callFilter a).buffer =
      l.buffer.take l.dataOutOffset ++ (List.range l.dataOutSize).map a.dataOut := rfl
  rw [hbuffer, take_append, hlength, take_of_length_le (by omega),
    Nat.add_sub_cancel_left, ← map_take, take_range, Nat.min_eq_left hn]

lemma Buffered.length_callFilter : (l.callFilter a).buffer.length = kBufferSize := by
  have hbuffer : (l.callFilter a).buffer =
      l.buffer.take l.dataOutOffset ++ (List.range l.dataOutSize).map a.dataOut := rfl
  rw [hbuffer, length_append, h.length_front, length_map, length_range, h.inside, h.length_buffer]

lemma Buffered.write_segments : l.write.segments.flatten = bytes := by
  rw [← h.kept, write]
  cases hbuffer : l.dataOut with
  | none => simp [h.fresh hbuffer]
  | some b => simp [buffer, hbuffer]

lemma Buffered.segments_of_offset (hzero : l.dataOutOffset = 0) : l.segments.flatten = bytes := by
  have hkept := h.kept
  rwa [hzero, take_zero, append_nil] at hkept

/-- **The bytes that the filter has written** are kept, in the buffer or in a segment. -/
lemma Buffered.receive (hfits : a.dataOutWritten ≤ l.dataOutSize) :
    ((l.callFilter a).receive a.dataOutWritten).Buffered (bytes ++ a.written) := by
  have hlength := h.length_callFilter (a := a)
  have hfront := h.take_callFilter (a := a) hfits
  -- the buffer before it is looked whether it is full
  have hkept : (l.callFilter a).segments.flatten ++
      (l.callFilter a).buffer.take (l.dataOutOffset + a.dataOutWritten) = bytes ++ a.written := by
    rw [hfront, ← append_assoc, ← h.kept]
    rfl
  rw [FilterLoop.receive]
  split
  · dsimp only
    split
    · exact {
        inside := by simp [dataOutSize, buffer, write]
        room := kMinBufferSpace_le
        fresh := fun _ => rfl
        kept := by
          rw [take_zero, append_nil, ← hkept]
          simp [write, callFilter, buffer] }
    · rename_i hspace
      have hoffset : l.dataOutOffset + a.dataOutWritten ≤ kBufferSize - kMinBufferSpace :=
        Nat.not_lt.mp hspace
      exact {
        inside := Eq.trans (by omega : l.dataOutOffset + a.dataOutWritten +
          (kBufferSize - (l.dataOutOffset + a.dataOutWritten)) = kBufferSize) hlength.symm
        room := (by omega :
          kMinBufferSpace ≤ kBufferSize - (l.dataOutOffset + a.dataOutWritten))
        fresh := fun hnone => nomatch hnone
        kept := hkept }
  · rename_i hzero
    have hnone : a.dataOutWritten = 0 := Nat.eq_zero_of_not_pos hzero
    exact {
      inside := (h.inside.trans h.length_buffer).trans hlength.symm
      room := h.room
      fresh := fun hnot => nomatch hnot
      kept := by
        rw [hnone] at hkept
        exact hkept }

end

lemma receive_input (n : Nat) (l : FilterLoop) : (l.receive n).dataInPtr = l.dataInPtr ∧
    (l.receive n).dataInSize = l.dataInSize ∧ (l.receive n).lastStatus = l.lastStatus ∧
      (l.receive n).running = l.running := by
  unfold FilterLoop.receive
  split
  · dsimp only
    split
    · exact ⟨rfl, rfl, rfl, rfl⟩
    · exact ⟨rfl, rfl, rfl, rfl⟩
  · exact ⟨rfl, rfl, rfl, rfl⟩

/-! ### Passes -/

lemma pass_of_valid (hstatus : a.status ≠ .error) (hvalid : a.Valid l.dataInSize l.dataOutSize)
    {l₁ : FilterLoop} (hl₁ : ((l.callFilter a).receive a.dataOutWritten).consume a.dataInRead = l₁) :
    l.pass a =
      if a.dataInRead < l.dataInSize ∨ a.dataOutWritten = l.dataOutSize ∧ a.status = .needMoreData
        then l₁
      else if 0 < l₁.dataOutOffset then l₁.write.stop else l₁.stop := by
  obtain ⟨hread, hwritten, hall⟩ := hvalid
  rw [pass]
  rw [if_neg hstatus, if_neg (Nat.not_lt.mpr hread), if_neg (Nat.not_lt.mpr hwritten),
    if_neg fun hnot => hnot.2 (hall hnot.1), hl₁, ite_or]

/-- **An answer that is not in order** ends the loop with an error, and nothing more is handed over. -/
lemma pass_of_invalid (h : a.status = .error ∨ ¬ a.Valid l.dataInSize l.dataOutSize) :
    (l.pass a).running = false ∧ (l.pass a).lastStatus = .error ∧
      (l.pass a).segments = l.segments := by
  rw [pass]
  split
  · rename_i hstatus
    exact ⟨rfl, hstatus, rfl⟩
  · rename_i hstatus
    split
    · exact ⟨rfl, rfl, rfl⟩
    · rename_i hread
      split
      · exact ⟨rfl, rfl, rfl⟩
      · rename_i hwritten
        rw [if_pos]
        · exact ⟨rfl, rfl, rfl⟩
        · have hnot := h.resolve_left hstatus
          rw [FilterAnswer.Valid] at hnot
          by_contra hall
          refine hnot ⟨Nat.not_lt.mp hread, Nat.not_lt.mp hwritten, fun hzero => ?_⟩
          by_contra hne
          exact hall ⟨hzero, hne⟩

/-- What holds when the loop has ended without an error: all input has been consumed, and all that has
been written has been handed over. -/
def Finished (size : Nat) (as : List FilterAnswer) (l : FilterLoop) : Prop :=
  consumed as = size ∧ l.segments.flatten = written as

lemma consume_spec (read : Nat)
    (hptr : l.dataInPtr = if consumed as < size then some (consumed as) else none)
    (hsize : l.dataInSize = size - consumed as) (hle : consumed as + read ≤ size) :
    (l.consume read).dataInPtr =
        (if consumed as + read < size then some (consumed as + read) else none) ∧
      (l.consume read).dataInSize = size - (consumed as + read) := by
  unfold consume
  by_cases hrest : consumed as < size
  · rw [if_pos hrest] at hptr
    split
    · rename_i hread
      rw [hsize] at hread
      rw [hptr, hsize, if_pos (by omega)]
      refine ⟨rfl, ?_⟩
      dsimp only
      omega
    · rename_i hread
      rw [hsize] at hread
      rw [if_pos (by rw [hptr]; rfl), if_neg (by omega)]
      refine ⟨rfl, ?_⟩
      dsimp only
      omega
  · rw [if_neg hrest] at hptr
    rw [if_neg (by omega), if_neg (by rw [hptr]; decide), hptr, hsize, if_neg (by omega)]
    exact ⟨rfl, by omega⟩

lemma Buffered.consume (h : l.Buffered bytes) (read : Nat) : (l.consume read).Buffered bytes := by
  unfold FilterLoop.consume
  split
  · exact { h with }
  · split
    · exact { h with }
    · exact h

lemma consume_output (read : Nat) (l : FilterLoop) :
    (l.consume read).lastStatus = l.lastStatus ∧ (l.consume read).running = l.running := by
  unfold FilterLoop.consume
  split
  · exact ⟨rfl, rfl⟩
  · split
    · exact ⟨rfl, rfl⟩
    · exact ⟨rfl, rfl⟩

/-- **A pass** with an answer that is in order: the next call gets what it should, or the loop ends. -/
lemma Offers.pass (h : l.Offers size as) (hrunning : l.running = true) (hstatus : a.status ≠ .error)
    (hvalid : a.Valid l.dataInSize l.dataOutSize) :
    ((l.pass a).running = true ∧ (l.pass a).Offers size (as ++ [a])) ∨
      ((l.pass a).running = false ∧ (l.pass a).Finished size (as ++ [a])) := by
  obtain ⟨hread, hwritten, -⟩ := id hvalid
  have hle := h.consumed_le
  rw [h.inputSize] at hread
  obtain ⟨hptr, hsize, hlast, hgoing⟩ := receive_input a.dataOutWritten (l.callFilter a)
  have hbuffered := (h.toBuffered.receive (a := a) hwritten).consume a.dataInRead
  have hinput := consume_spec a.dataInRead (hptr.trans h.input) (hsize.trans h.inputSize)
    (by omega)
  have houtput := consume_output a.dataInRead ((l.callFilter a).receive a.dataOutWritten)
  rw [← written_append] at hbuffered
  rw [← consumed_append] at hinput
  rw [pass_of_valid hstatus hvalid rfl]
  generalize ((l.callFilter a).receive a.dataOutWritten).consume a.dataInRead = l₁
    at hbuffered hinput houtput
  split
  · left
    refine ⟨houtput.2.trans (hgoing.trans hrunning), ?_⟩
    exact { hbuffered with
      consumed_le := by
        rw [consumed_append]
        omega
      input := hinput.1
      inputSize := hinput.2 }
  · rename_i hends
    have hconsumed : consumed (as ++ [a]) = size := by
      rw [not_or, h.inputSize] at hends
      rw [consumed_append]
      omega
    right
    split
    · exact ⟨rfl, hconsumed, hbuffered.write_segments⟩
    · rename_i hzero
      exact ⟨rfl, hconsumed, hbuffered.segments_of_offset (Nat.eq_zero_of_not_pos hzero)⟩

def Right (size : Nat) (as : List FilterAnswer) (l : FilterLoop) : Prop :=
  (l.running = true → l.Offers size as) ∧
    (l.running = false → l.lastStatus = .error ∨ l.Finished size as)

lemma Right.step {l' : FilterLoop} (h : l.Right size as) (hstep : l.step a = some l') :
    l'.Right size (as ++ [a]) := by
  rw [FilterLoop.step] at hstep
  split at hstep
  · rename_i hrunning
    cases hstep
    by_cases hinvalid : a.status = .error ∨ ¬ a.Valid l.dataInSize l.dataOutSize
    · obtain ⟨hstop, herror, -⟩ := pass_of_invalid hinvalid
      exact ⟨fun hgoing => absurd (hstop.symm.trans hgoing) (by decide), fun _ => .inl herror⟩
    · rw [not_or, not_not] at hinvalid
      rcases (h.1 hrunning).pass hrunning hinvalid.1 hinvalid.2 with
        ⟨hgoing, hoffers⟩ | ⟨hstop, hfinished⟩
      · exact ⟨fun _ => hoffers, fun hnot => absurd (hgoing.symm.trans hnot) (by decide)⟩
      · exact ⟨fun hnot => absurd (hstop.symm.trans hnot) (by decide), fun _ => .inr hfinished⟩
  · exact nomatch hstep

lemma right_of_run {size : Nat} {lastStatus : FilterStatus} {as : List FilterAnswer} {l : FilterLoop}
    (h : as.foldlM step (start size lastStatus) = some l) : l.Right size as := by
  induction as using List.reverseRecOn generalizing l with
  | nil =>
    cases h
    exact ⟨fun _ => start_offers size lastStatus, fun hnot => nomatch hnot⟩
  | append_singleton as a ih =>
    rw [foldlM_append, Option.bind_eq_bind, Option.bind_eq_some_iff] at h
    obtain ⟨l₀, hl₀, hlast⟩ := h
    rw [foldlM_cons, Option.bind_eq_bind, Option.bind_eq_some_iff] at hlast
    obtain ⟨l₁, hl₁, heq⟩ := hlast
    cases heq
    exact (ih hl₀).step hl₁

/-- A filter that reads and writes half of what it is given. -/
def halves : FilterAnswer := ⟨.needMoreData, 2, kBufferSize / 2, fun _ => 97⟩

open FilterPipeline

/-- What the pipeline does after a pass: it writes the new segments, and goes on with the loop or
returns to the caller of `Filter`. -/
def follow (caller : FilterCaller) (data : List UInt8) (as : List FilterAnswer) (l l' : FilterLoop)
    (s : FilterPipeline) : Except Stop FilterPipeline := do
  let w ← s.this
  let s := s.put { w with lastStatus := l'.lastStatus }
  let s ← (l'.segments.drop l.segments.length).foldlM (fun s data => s.write data) s
  if l'.running then
    pure { s with
      control := .filtering caller (data.drop (consumed as)) (l'.buffer.take l'.dataOutOffset) }
  else
    s.filterReturns caller

def Fills (a : FilterAnswer) (l : FilterLoop) : Prop :=
  0 < a.dataOutWritten ∧ kBufferSize - kMinBufferSpace < l.dataOutOffset + a.dataOutWritten

instance (a : FilterAnswer) (l : FilterLoop) : Decidable (Fills a l) :=
  inferInstanceAs (Decidable (_ ∧ _))

/-- The buffer that is handed to `Write` because it is full, if it is. -/
def filled (a : FilterAnswer) (l : FilterLoop) : List (List UInt8) :=
  if Fills a l then [l.buffer.take l.dataOutOffset ++ a.written] else []

def front (a : FilterAnswer) (l : FilterLoop) : List UInt8 :=
  if Fills a l then [] else l.buffer.take l.dataOutOffset ++ a.written

lemma Buffered.receive_segments (h : l.Buffered bytes) (hfits : a.dataOutWritten ≤ l.dataOutSize)
    {l₁ : FilterLoop} (hl₁ : (l.callFilter a).receive a.dataOutWritten = l₁) :
    l₁.segments = l.segments ++ filled a l ∧ l₁.buffer.take l₁.dataOutOffset = front a l ∧
      l₁.dataOutOffset = (front a l).length ∧ (0 < l₁.dataOutOffset → l₁.dataOut.isSome) := by
  have hfront := h.take_callFilter (a := a) hfits
  have hlength : (l.buffer.take l.dataOutOffset ++ a.written).length =
      l.dataOutOffset + a.dataOutWritten := by
    rw [length_append, h.length_front, length_written]
  rw [filled, front]
  by_cases hfills : Fills a l
  · rw [if_pos hfills, if_pos hfills]
    rw [FilterLoop.receive, if_pos hfills.1] at hl₁
    rw [if_pos (show kBufferSize - kMinBufferSpace <
      (l.callFilter a).dataOutOffset + a.dataOutWritten from hfills.2)] at hl₁
    subst hl₁
    refine ⟨?_, rfl, rfl, fun hnot => absurd hnot (Nat.lt_irrefl 0)⟩
    exact congrArg (fun segment => l.segments ++ [segment]) hfront
  · rw [if_neg hfills, if_neg hfills, append_nil]
    rw [FilterLoop.receive] at hl₁
    split at hl₁
    · rename_i hpos
      rw [if_neg (show ¬ kBufferSize - kMinBufferSpace <
        (l.callFilter a).dataOutOffset + a.dataOutWritten from fun hf => hfills ⟨hpos, hf⟩)] at hl₁
      subst hl₁
      exact ⟨rfl, hfront, hlength.symm, fun _ => rfl⟩
    · rename_i hzero
      have hsame : l.dataOutOffset + a.dataOutWritten = l.dataOutOffset := by omega
      subst hl₁
      rw [hsame] at hfront hlength
      exact ⟨rfl, hfront, hlength.symm, fun _ => rfl⟩

lemma consume_segments (read : Nat) (l : FilterLoop) : (l.consume read).segments = l.segments ∧
    (l.consume read).dataOut = l.dataOut ∧ (l.consume read).dataOutOffset = l.dataOutOffset := by
  unfold FilterLoop.consume
  split
  · exact ⟨rfl, rfl, rfl⟩
  · split
    · exact ⟨rfl, rfl, rfl⟩
    · exact ⟨rfl, rfl, rfl⟩

/-- **What a pass hands to `Write`**: a buffer that is full, and in the end what is left. -/
lemma Buffered.pass_segments (h : l.Buffered bytes) (hrunning : l.running = true)
    (hstatus : a.status ≠ .error) (hvalid : a.Valid l.dataInSize l.dataOutSize) :
    (l.pass a).lastStatus = a.status ∧
      if a.dataInRead < l.dataInSize ∨ a.dataOutWritten = l.dataOutSize ∧ a.status = .needMoreData then
        (l.pass a).running = true ∧ (l.pass a).segments = l.segments ++ filled a l ∧
          (l.pass a).buffer.take (l.pass a).dataOutOffset = front a l
      else
        (l.pass a).running = false ∧ (l.pass a).segments = l.segments ++ (filled a l ++
          if 0 < (front a l).length then [front a l] else []) := by
  obtain ⟨-, hwritten, -⟩ := id hvalid
  obtain ⟨-, -, hlast, hgoing⟩ := receive_input a.dataOutWritten (l.callFilter a)
  obtain ⟨hsegments, hfront, hlength, hsome⟩ := h.receive_segments hwritten rfl
  have hlast₁ := (consume_output a.dataInRead _).1.trans hlast
  have hgoing₁ := ((consume_output a.dataInRead _).2.trans hgoing).trans hrunning
  obtain ⟨hsegments₁, hdataOut₁, hoffset₁⟩ :=
    consume_segments a.dataInRead ((l.callFilter a).receive a.dataOutWritten)
  rw [← hsegments₁] at hsegments
  rw [buffer, ← hdataOut₁, ← hoffset₁] at hfront
  rw [← hoffset₁] at hlength
  rw [← hdataOut₁, ← hoffset₁] at hsome
  rw [pass_of_valid hstatus hvalid rfl]
  generalize ((l.callFilter a).receive a.dataOutWritten).consume a.dataInRead = l₁ at *
  split
  · exact ⟨hlast₁, hgoing₁, hsegments, hfront⟩
  · rw [hlength]
    split
    · rename_i hpos
      rw [← hlength] at hpos
      obtain ⟨b, hb⟩ := Option.isSome_iff_exists.mp (hsome hpos)
      refine ⟨hlast₁, rfl, ?_⟩
      rw [hb, Option.getD_some] at hfront
      simp [write, stop, hb, hsegments, hfront]
    · refine ⟨hlast₁, rfl, ?_⟩
      rw [append_nil]
      exact hsegments

/-- **A pass of the loop is that of the pipeline**, in which the input is what has not been consumed and
the output is what is in front of the window. -/
theorem filter_eq_pass (caller : FilterCaller) (data : List UInt8) (s : FilterPipeline)
    (h : l.Offers data.length as) (hrunning : l.running = true) :
    s.filter caller (data.drop (consumed as)) (l.buffer.take l.dataOutOffset) a =
      follow caller data (as ++ [a]) l (l.pass a) s := by
  have hinput : (data.drop (consumed as)).length = l.dataInSize := by
    rw [length_drop, h.inputSize]
  have hwindow : kBufferSize - (l.buffer.take l.dataOutOffset).length = l.dataOutSize := by
    rw [h.length_front, dataOutSize]
  unfold FilterPipeline.filter follow
  cases hthis : s.this with
  | error e => rfl
  | ok w =>
    rw [Fallible.ok_bind, Fallible.ok_bind]
    rw [hinput, hwindow]
    by_cases hinvalid : a.status = .error ∨ ¬ a.Valid l.dataInSize l.dataOutSize
    · obtain ⟨hstop, herror, hsegments⟩ := pass_of_invalid hinvalid
      rw [if_pos hinvalid, hstop, herror, hsegments, drop_length]
      rfl
    · rw [if_neg hinvalid]
      rw [not_or, not_not] at hinvalid
      obtain ⟨hstatus, hvalid⟩ := hinvalid
      obtain ⟨hlast, hpass⟩ := h.toBuffered.pass_segments hrunning hstatus hvalid
      have hfills : (0 < a.dataOutWritten ∧ kBufferSize - kMinBufferSpace <
          (l.buffer.take l.dataOutOffset ++ a.written).length) ↔ Fills a l := by
        rw [length_append, h.length_front, length_written]
        rfl
      have hdrop : (data.drop (consumed as)).drop a.dataInRead = data.drop (consumed (as ++ [a])) := by
        rw [drop_drop, consumed_append]
      have hnil : ¬ a.dataInRead < l.dataInSize → data.drop (consumed (as ++ [a])) = [] := by
        intro hall
        rw [h.inputSize] at hall
        rw [drop_eq_nil_iff, consumed_append]
        omega
      simp only [hfills, hdrop, hlast]
      -- the segment of a buffer that is full
      have hfull : ∀ s : FilterPipeline,
          (if Fills a l then s.write (l.buffer.take l.dataOutOffset ++ a.written) else pure s) =
            (filled a l).foldlM (fun s data => s.write data) s := by
        intro s
        rw [filled]
        split
        · rw [foldlM_cons]
          exact (bind_pure _).symm
        · rfl
      have hfront : (if Fills a l then [] else l.buffer.take l.dataOutOffset ++ a.written) =
          front a l := rfl
      rw [hfull, hfront]
      by_cases hgoes : a.dataInRead < l.dataInSize ∨
          a.dataOutWritten = l.dataOutSize ∧ a.status = .needMoreData
      · rw [if_pos hgoes] at hpass
        obtain ⟨hgoing, hsegments, hbuffer⟩ := hpass
        rw [hgoing, hsegments, hbuffer, drop_left]
        refine congrArg _ (funext fun s => ?_)
        rw [if_pos rfl]
        by_cases hread : a.dataInRead < l.dataInSize
        · rw [if_pos hread]
        · rw [if_neg hread, if_pos (hgoes.resolve_left hread), hnil hread]
      · rw [if_neg hgoes] at hpass
        obtain ⟨hstop, hsegments⟩ := hpass
        rw [not_or] at hgoes
        rw [hstop, hsegments, drop_left, foldlM_append, bind_assoc]
        refine congrArg _ (funext fun s => ?_)
        rw [if_neg hgoes.1, if_neg hgoes.2]
        split
        · simp [List.foldlM]
        · rfl

/-- **The loop does what the pipeline does**: in every run of it, each answer of the filter leads the
pipeline to where the pass leads the loop. -/
theorem filter_follows_loop (caller : FilterCaller) {data : List UInt8} {lastStatus : FilterStatus}
    (hrun : as.foldlM step (start data.length lastStatus) = some l) (hrunning : l.running = true)
    (s : FilterPipeline) (a : FilterAnswer) :
    s.filter caller (data.drop (consumed as)) (l.buffer.take l.dataOutOffset) a =
      follow caller data (as ++ [a]) l (l.pass a) s :=
  filter_eq_pass caller data s ((right_of_run hrun).1 hrunning) hrunning

theorem filter_follows_loop_halves : ∃ l, [halves].foldlM step (start 4 .needMoreData) = some l ∧
    l.running = true ∧ ∀ s : FilterPipeline,
      s.filter .drain [3, 4] (l.buffer.take l.dataOutOffset) halves =
        follow .drain [1, 2, 3, 4] [halves, halves] l (l.pass halves) s := by
  have hrun : [halves].foldlM step (start 4 .needMoreData) =
    some ((start 4 .needMoreData).pass halves) := rfl
  have hrunning : ((start 4 .needMoreData).pass halves).running = true := by decide
  exact ⟨_, hrun, hrunning, fun s =>
    @filter_follows_loop _ _ .drain [1, 2, 3, 4] _ hrun hrunning s halves⟩

end FilterLoop

end CefCore.NetService
