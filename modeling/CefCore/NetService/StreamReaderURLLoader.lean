import CefCore.NetService.InputStreamReader
import CefCore.NetService.ResponseFilterWrapper

/-!
# The stream reader URL loader

`StreamReaderURLLoader` answers a request with the content of an `InputStream`. It asks a header
client, opens the stream through `OpenInputStreamWrapper`, skips to the first byte of the requested
range, reports the headers of the response, waits for the client, and then copies the stream into a
data pipe. Every one of these steps ends in a callback, and most callbacks are bound to a weak
pointer, which `CleanUp` invalidates.

## Main definitions

* `LoaderSystem.step`: a task, a callback or an event.

## Implementation notes

Everything that has been posted or given away is in the pools `tasks` and `reader.tasks`, from which
any item may be next. A weak pointer is the number of invalidations before it was made. The reader
is there from the start; it is not used before the stream has been opened. Byte counts and ids do
not overflow.
-/

namespace CefCore.NetService

open TaskPool

def OK : Int := 0

def ERR_ABORTED : Int := -3

def ERR_UNEXPECTED : Int := -9

/-- `net::HttpByteRange`, where `-1` is `kPositionNotSpecified`. -/
structure HttpByteRange where
  firstBytePosition : Int := -1
  lastBytePosition : Int := -1
  suffixLength : Int := -1

def HttpByteRange.hasLastBytePosition (r : HttpByteRange) : Bool := r.lastBytePosition ≠ -1

def HttpByteRange.isValid (r : HttpByteRange) : Bool :=
  0 < r.suffixLength ∨
    0 ≤ r.firstBytePosition ∧
      (r.lastBytePosition = -1 ∨ r.firstBytePosition ≤ r.lastBytePosition)

/-- The header `Range` of a request, as `HttpUtil::ParseRangeHeader` reads it. -/
inductive RangeHeader where
  | absent
  | invalid
  | ranges (ranges : List HttpByteRange)

/-- The members of `StreamReaderURLLoader`. The pending buffer is given by its size. -/
structure StreamReaderURLLoader where
  hasHeaderClient : Bool
  byteRange : HttpByteRange
  headerLength : Nat
  totalBytesRead : Int
  hasInputStreamReader : Bool
  producerHandle : Bool
  pendingBuffer : Option Nat
  writableHandleWatcher : Watcher
  openCancelCallback : Bool
  needClientCallback : Bool
  gotClientCallback : Bool
  weakPtr : Nat

/-- The members of `OpenInputStreamWrapper`. -/
structure OpenInputStreamWrapper where
  callback : Option Nat
  isCanceled : Bool

/-- The tasks that have been posted and the callbacks that have been given away, other than those of
the reader. Callbacks of the loader carry its weak pointer. -/
inductive LoaderTask where
  | disconnect (ptr : Nat)
  | continueWithRequestHeaders (ptr : Nat)
  | openOnWorkThread
  | openCallback
  | cancelOnWorkThread
  | onCallback (inputStream : Bool)
  | continueWithResponseHeaders (contentLength : Int) (ptr : Nat)
  | readMore (ptr : Nat)

/-- What the client is told, and the clean-up in `Cancel`. -/
inductive ClientCall where
  | onReceiveRedirect
  | onReceiveResponse (contentLength : Int)
  | onTransferSizeUpdated (size : Int)
  | onComplete (status encodedDataLength encodedBodyLength : Int)
  | canceled

/-- `NetToMojoPendingBuffer::BeginWrite`. A buffer that is given out is not empty. -/
inductive BeginWriteResult where
  | ok (size : Nat) (size_pos : 0 < size)
  | shouldWait
  | failedPrecondition
  | failed

lemma zero_lt_capacity : 0 < 65536 := by decide

/-- What others do in one step: the reply of the header client, the answers of the delegate, the
headers of the response, and the state of the data pipe. The delegate may leave the status code and
the content length as they are. -/
structure LoaderTurn where
  result : Int := OK
  opens : Bool := true
  inputStream : Bool := true
  openFailureHandled : Bool := false
  statusCode : Option Int := none
  contentLength : Option Int := none
  headerLength : Nat := 0
  redirects : Bool := false
  createDataPipe : Bool := true
  beginWrite : BeginWriteResult := .ok 65536 zero_lt_capacity

/-- The loader in its surroundings: whether it has been deleted, the wrapper that opens the stream,
the reader, the pool of tasks and callbacks, the calls of the client, newest first, what has been
committed to the data pipe, and the content length with which `HeadersComplete` has been called. -/
structure LoaderSystem where
  loader : StreamReaderURLLoader
  alive : Bool
  wrapper : OpenInputStreamWrapper
  reader : InputStreamReader Nat
  tasks : List LoaderTask
  calls : List ClientCall
  committed : List UInt8
  announced : Option Int

namespace LoaderSystem

/-- A task is posted, or a callback is given away. -/
def post (t : LoaderTask) (s : LoaderSystem) : LoaderSystem :=
  { s with tasks := s.tasks ++ [t] }

def tell (c : ClientCall) (s : LoaderSystem) : LoaderSystem :=
  { s with calls := c :: s.calls }

/-- A callback that is bound to a weak pointer runs if the pointer is valid. -/
def weak (ptr : Nat) (f : LoaderSystem → Except LoaderStop LoaderSystem) (s : LoaderSystem) :
    Except LoaderStop LoaderSystem :=
  if s.alive ∧ ptr = s.loader.weakPtr then f s else .ok s

def cleanUp (s : LoaderSystem) : LoaderSystem :=
  { s with
    loader := { s.loader with
      weakPtr := s.loader.weakPtr + 1
      writableHandleWatcher := .cancelled
      pendingBuffer := none
      producerHandle := false } }

def requestComplete (statusCode : Int) (s : LoaderSystem) : LoaderSystem :=
  let encodedDataLength := s.loader.totalBytesRead + s.loader.headerLength
  let encodedBodyLength := s.loader.totalBytesRead
  s.cleanUp.tell (.onComplete statusCode encodedDataLength encodedBodyLength)

def byteRangeValid (s : LoaderSystem) : Bool :=
  s.loader.byteRange.isValid ∧ 0 ≤ s.loader.byteRange.firstBytePosition

/-- `StreamReaderURLLoader::OnReaderReadCompleted`. A stream does not write past the end of the
buffer that it is given. -/
def onReaderReadCompleted (bytesRead : BytesRead) (s : LoaderSystem) :
    Except LoaderStop LoaderSystem :=
  match s.loader.pendingBuffer with
  | none => .error .dcheckFailed
  | some size =>
    if (size : Int) < bytesRead.count then
      .error .impossible
    else if bytesRead.count < 0 then
      -- Error case.
      .ok (s.requestComplete bytesRead.count)
    else if bytesRead.count = 0 then
      -- Eof, read completed.
      .ok (s.requestComplete OK)
    else
      let s := { s with
        committed := s.committed ++ bytesRead.data
        loader := { s.loader with producerHandle := true, pendingBuffer := none } }
      let s := s.tell (.onTransferSizeUpdated bytesRead.count)
      let totalBytesRead := s.loader.totalBytesRead + bytesRead.count
      let s := { s with loader := { s.loader with totalBytesRead } }
      .ok (s.post (.readMore s.loader.weakPtr))

def readMore (turn : LoaderTurn) (s : LoaderSystem) : Except LoaderStop LoaderSystem := do
  dcheck (s.loader.pendingBuffer.isNone)
  match turn.beginWrite with
  | .shouldWait =>
    -- The pipe is full. We need to wait for it to have more space.
    pure { s with loader := { s.loader with writableHandleWatcher := .armed } }
  | .failedPrecondition =>
    -- The data pipe consumer handle has been closed.
    pure (s.requestComplete ERR_ABORTED)
  | .failed =>
    -- The body stream is in a bad state. Bail out.
    pure (s.requestComplete ERR_UNEXPECTED)
  | .ok size _ =>
    let s := { s with loader := { s.loader with
      producerHandle := false, pendingBuffer := some size } }
    if !s.loader.hasInputStreamReader then
      -- Opening the InputStream has failed.
      s.onReaderReadCompleted .eof
    else
      pure { s with reader := s.reader.read size s.loader.weakPtr }

/-- `StreamReaderURLLoader::OnDataPipeWritable`, where `closed` is a failed precondition. -/
def onDataPipeWritable (closed : Bool) (turn : LoaderTurn) (s : LoaderSystem) :
    Except LoaderStop LoaderSystem :=
  if closed then
    .ok (s.requestComplete ERR_ABORTED)
  else
    s.readMore turn

def continueWithResponseHeaders (contentLength result : Int) (turn : LoaderTurn)
    (s : LoaderSystem) : LoaderSystem :=
  if result ≠ OK then
    s.requestComplete result
  else
    let s := { s with loader := { s.loader with headerLength := turn.headerLength } }
    if turn.redirects then
      -- The client will restart the request with a new loader.
      s.cleanUp.tell .onReceiveRedirect
    else if !turn.createDataPipe then
      s.requestComplete ERR_FAILED
    else
      let s := { s with loader := { s.loader with
        producerHandle := true, needClientCallback := true } }
      s.tell (.onReceiveResponse contentLength)

def headersComplete (origStatusCode expectedContentLength : Int) (turn : LoaderTurn)
    (s : LoaderSystem) : LoaderSystem :=
  let s := { s with announced := some expectedContentLength }
  let statusCode := turn.statusCode.getD origStatusCode
  let contentLength := turn.contentLength.getD expectedContentLength
  if statusCode < 0 then
    -- Early exit if the handler reported an error.
    s.requestComplete statusCode
  else if s.loader.hasHeaderClient then
    s.post (.continueWithResponseHeaders contentLength s.loader.weakPtr)
  else
    s.continueWithResponseHeaders contentLength OK turn

def onReaderSkipCompleted (bytesSkipped : Int) (turn : LoaderTurn) (s : LoaderSystem) :
    LoaderSystem :=
  let range := s.loader.byteRange
  if !s.byteRangeValid then
    -- Expected content length is unspecified.
    s.headersComplete 200 (-1) turn
  else if bytesSkipped = range.firstBytePosition then
    -- We skipped the expected number of bytes.
    let expectedContentLength :=
      if range.hasLastBytePosition then range.lastBytePosition - range.firstBytePosition + 1
      else -1
    s.headersComplete 200 expectedContentLength turn
  else
    s.requestComplete (if bytesSkipped < 0 then bytesSkipped else ERR_FAILED)

def onInputStreamOpened (inputStream : Bool) (turn : LoaderTurn) (s : LoaderSystem) :
    LoaderSystem :=
  let s := { s with loader := { s.loader with openCancelCallback := false } }
  if !inputStream then
    if !turn.openFailureHandled then s.headersComplete 404 (-1) turn else s
  else
    let s := { s with loader := { s.loader with hasInputStreamReader := true } }
    if !s.byteRangeValid then
      s.onReaderSkipCompleted 0 turn
    else
      { s with reader := s.reader.skip s.loader.byteRange.firstBytePosition s.loader.weakPtr }

/-- `OpenInputStreamWrapper::OnCallback`, on the job thread. -/
def onCallback (inputStream : Bool) (turn : LoaderTurn) (s : LoaderSystem) :
    Except LoaderStop LoaderSystem :=
  match s.wrapper.callback with
  | none => .ok s
  | some ptr =>
    let s := { s with wrapper := { s.wrapper with callback := none } }
    s.weak ptr fun s => .ok (s.onInputStreamOpened inputStream turn)

def openOnWorkThread (turn : LoaderTurn) (s : LoaderSystem) : LoaderSystem :=
  if s.wrapper.isCanceled then
    s
  else
    let s := s.post .openCallback
    if !turn.opens then
      { s with wrapper := { s.wrapper with isCanceled := true } }.post (.onCallback false)
    else
      s

def cancelOnWorkThread (s : LoaderSystem) : LoaderSystem :=
  if s.wrapper.isCanceled then
    s
  else
    { s with wrapper := { s.wrapper with isCanceled := true } }.post (.onCallback false)

def cancelOnJobThread (s : LoaderSystem) : LoaderSystem :=
  if s.wrapper.callback.isNone then
    s
  else
    { s with wrapper := { s.wrapper with callback := none } }.post .cancelOnWorkThread

def continueWithRequestHeaders (result : Int) (s : LoaderSystem) : LoaderSystem :=
  if result ≠ OK then
    s.requestComplete result
  else
    let s := { s with
      loader := { s.loader with openCancelCallback := true }
      wrapper := ⟨some s.loader.weakPtr, false⟩ }
    s.post .openOnWorkThread

/-- `StreamReaderURLLoader::ParseRange`: the range of the request, unless the header is invalid. -/
def parseRange : RangeHeader → Option HttpByteRange
  | .absent => some {}
  | .invalid => none
  -- In case of multi-range request only use the first range.
  | .ranges [range] => some range
  | .ranges _ => some {}

def create (hasHeaderClient : Bool) : LoaderSystem where
  loader := {
    hasHeaderClient
    byteRange := {}
    headerLength := 0
    totalBytesRead := 0
    hasInputStreamReader := false
    producerHandle := false
    pendingBuffer := none
    writableHandleWatcher := .silent
    openCancelCallback := false
    needClientCallback := false
    gotClientCallback := false
    weakPtr := 0 }
  alive := true
  wrapper := ⟨none, false⟩
  reader := .new
  tasks := [.disconnect 0]
  calls := []
  committed := []
  announced := none

/-- `StreamReaderURLLoader::Start`, on a new loader. -/
def start (hasHeaderClient : Bool) (header : RangeHeader) : LoaderSystem :=
  let s := create hasHeaderClient
  match parseRange header with
  | none => s.requestComplete ERR_REQUEST_RANGE_NOT_SATISFIABLE
  | some byteRange =>
    let s := { s with loader := { s.loader with byteRange } }
    if s.loader.hasHeaderClient then
      s.post (.continueWithRequestHeaders s.loader.weakPtr)
    else
      s.continueWithRequestHeaders OK

/-- `StreamReaderURLLoader::Continue`. -/
def continueRequest (turn : LoaderTurn) (s : LoaderSystem) : Except LoaderStop LoaderSystem :=
  let s := { s with loader := { s.loader with
    gotClientCallback := true, writableHandleWatcher := .silent } }
  s.readMore turn

def cancel (s : LoaderSystem) : LoaderSystem :=
  let s := { s with loader := { s.loader with gotClientCallback := true } }
  s.cleanUp.tell .canceled

def destroy (s : LoaderSystem) : LoaderSystem :=
  let s :=
    if s.loader.openCancelCallback then
      -- Release the Delegate held by OpenInputStreamWrapper.
      { s with loader := { s.loader with openCancelCallback := false } }.cancelOnJobThread
    else s
  { s.cleanUp with alive := false }

def execute (t : LoaderTask) (turn : LoaderTurn) (s : LoaderSystem) :
    Except LoaderStop LoaderSystem :=
  match t with
  | .disconnect ptr => s.weak ptr fun s => .ok (s.requestComplete ERR_ABORTED)
  | .continueWithRequestHeaders ptr =>
    s.weak ptr fun s => .ok (s.continueWithRequestHeaders turn.result)
  | .openOnWorkThread => .ok (s.openOnWorkThread turn)
  | .openCallback => .ok (s.post (.onCallback turn.inputStream))
  | .cancelOnWorkThread => .ok s.cancelOnWorkThread
  | .onCallback inputStream => s.onCallback inputStream turn
  | .continueWithResponseHeaders contentLength ptr =>
    s.weak ptr fun s => .ok (s.continueWithResponseHeaders contentLength turn.result turn)
  | .readMore ptr => s.weak ptr (readMore turn)

/-- The result of an operation of the reader arrives. -/
def receive (turn : LoaderTurn) (s : LoaderSystem) :
    Option (Delivery Nat) → Except LoaderStop LoaderSystem
  | none => .ok s
  | some (.skip n ptr) => s.weak ptr fun s => .ok (s.onReaderSkipCompleted n turn)
  | some (.read n ptr) => s.weak ptr (onReaderReadCompleted n)

end LoaderSystem

def ClientCall.Ends : ClientCall → Prop
  | .onReceiveRedirect | .onComplete .. | .canceled => True
  | .onReceiveResponse _ | .onTransferSizeUpdated _ => False

instance : DecidablePred ClientCall.Ends
  | .onReceiveRedirect | .onComplete .. | .canceled => isTrue trivial
  | .onReceiveResponse _ | .onTransferSizeUpdated _ => isFalse id

namespace LoaderSystem

def Ended (s : LoaderSystem) : Prop := ∃ c ∈ s.calls, c.Ends

instance (s : LoaderSystem) : Decidable s.Ended := inferInstanceAs (Decidable (∃ c ∈ _, _))

/-- The client owes the loader a call of `Continue` or `Cancel`. -/
def Awaiting (s : LoaderSystem) : Prop :=
  s.alive = true ∧ s.loader.needClientCallback = true ∧ s.loader.gotClientCallback = false ∧
    ¬ s.Ended

instance (s : LoaderSystem) : Decidable s.Awaiting := inferInstanceAs (Decidable (_ ∧ _ ∧ _ ∧ _))

/-- What can happen: a task or callback is run, the reader runs one of its own, the data pipe is
writable or closed, the client calls `Continue` or `Cancel`, and the loader is deleted. -/
inductive Event where
  | task (i : Nat) (turn : LoaderTurn)
  | reader (i : Nat) (stream : StreamTurn) (turn : LoaderTurn)
  | writable (closed : Bool) (turn : LoaderTurn)
  | continueRequest (turn : LoaderTurn)
  | cancel
  | destroy

def step (s : LoaderSystem) : Event → Except LoaderStop LoaderSystem
  | .task i turn =>
    match pick s.tasks i with
    | none => .error .impossible
    | some (t, rest) => execute t turn { s with tasks := rest }
  | .reader i stream turn => do
    let (reader, delivery) ← s.reader.run i stream
    receive turn { s with reader } delivery
  | .writable closed turn =>
    if s.loader.writableHandleWatcher = .armed then
      onDataPipeWritable closed turn
        { s with loader := { s.loader with writableHandleWatcher := .silent } }
    else
      .error .impossible
  | .continueRequest turn => if s.Awaiting then s.continueRequest turn else .error .impossible
  | .cancel => if s.Awaiting then .ok s.cancel else .error .impossible
  | .destroy => if s.alive then .ok s.destroy else .error .impossible

end LoaderSystem

end CefCore.NetService
