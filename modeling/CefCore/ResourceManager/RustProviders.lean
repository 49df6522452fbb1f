import CefCore.ResourceManager.CppArchiveProvider
import CefCore.ResourceManager.RustManager
import Mathlib.Data.List.DropRight

/-!
# The built-in providers of the Rust resource manager

`ContentProvider`, `DirectoryProvider` and `ArchiveProvider` of `cef/src/wrapper/resource_manager.rs`
with the tasks they post, the `ZipArchive` of `cef/src/wrapper/zip_archive.rs`, and the functions of
the manager and of its requests on whose way a mutex is locked. Here the mutexes are explicit: a
function gets the list of the mutexes that its thread holds.

## Main definitions

* `RustWorld`: the manager with its providers, tasks and loads.

## Implementation notes

* Of `RustResourceManager` the provider list and the functions on it are used; `provider` gives the
  provider of an entry by the number of the entry. The request objects and the tasks are those of
  `RustWorld`.
* The file system gives for a path the file that `stream_reader_create_for_file` opens. A stream
  over data that is there can always be made. Paths are those of Unix.
* `mimeType` of a request is what its MIME type resolver gives for its URL. `to_lowercase` is a
  parameter.
* `callback.cont()`, which the drop of a `RequestState` calls, is `RequestCallbackWrapper::Continue` of
  the browser. On the IO thread it lets the load go on at once. A load that has not been cancelled
  and whose URL has not been changed asks the client for its handler, and the client locks the
  manager to call `resource_handler`. On the FILE thread, where a request whose file cannot be
  opened is dropped, it posts a task of the IO thread that does the same with no mutex held; that
  task is left out.
* An archive provider has the last `Arc` of each request in its queue.
* A thread runs its tasks in the order in which they were posted. The loop of `send_request` may
  be endless, so that it has a bound on the number of its iterations.
-/

namespace CefCore.ResourceManager

/-! ### Mutexes -/

/-- The mutexes of the manager, of a request and of the state of an archive provider. -/
inductive RustMutex where
  | manager
  | request (r : RequestId)
  | archive (a : Nat)
  deriving DecidableEq

/-- Why a call does not come back. -/
inductive RustHang where
  /-- It locks a mutex that its thread holds. -/
  | relocks (mutex : RustMutex)
  /-- It is in an endless loop. -/
  | loops

/-- `Mutex::lock` by a thread that holds the mutexes `held`; the mutexes that it holds then. -/
def RustMutex.lock (held : List RustMutex) (mutex : RustMutex) : Except RustHang (List RustMutex) :=
  if mutex ∈ held then .error (.relocks mutex) else .ok (mutex :: held)

/-! ### Zip archives -/

/-- `ZipArchive`, as its map from lower case names to contents. -/
structure RustZipArchive where
  contents : List (String × List UInt8)
  deriving DecidableEq

namespace RustZipArchive

/-- The loop of `load`, with the number of files added so far. A `continue` does not move to the
next file, and at no file the size is negative. -/
def loadLoop (toLowercase : String → String) (overwriteExisting : Bool) :
    List ZipEntry → RustZipArchive → Nat → Except RustHang (RustZipArchive × Nat)
  | [], _, _ => .error .loops
  | e :: rest, archive, count =>
    if e.data.isEmpty then .error .loops
    else if !e.opens then .ok (archive, count)
    else
      let name := toLowercase e.fileName
      if archive.contents.any (fun f => f.1 = name) && !overwriteExisting then .error .loops
      else
        let kept := archive.contents.filter fun f => f.1 ≠ name
        let archive : RustZipArchive := ⟨kept ++ [(name, e.data)]⟩
        if rest.isEmpty then .ok (archive, count + 1)
        else loadLoop toLowercase overwriteExisting rest archive (count + 1)

/-- `load` into a new archive, with the number of files added; `none` if there is no reader for
the file. -/
def load (toLowercase : String → String) (overwriteExisting : Bool) :
    Option (List ZipEntry) → Except RustHang (RustZipArchive × Nat)
  | none => .ok (⟨[]⟩, 0)
  | some entries => loadLoop toLowercase overwriteExisting entries ⟨[]⟩ 0

/-- `file`: the name is looked up as it is. -/
def file (archive : RustZipArchive) (name : String) : Option (List UInt8) :=
  (archive.contents.find? fun f => f.1 = name).map (·.2)

end RustZipArchive

/-! ### Paths -/

def normalizeUrlPath (urlPath : String) : String :=
  String.ofList (urlPath.toList.rdropWhile (· = '/')) ++ "/"

/-- `PathBuf::push` of a segment without a separator. -/
def pushSegment (path segment : List Char) : List Char :=
  path ++ (if path.getLast?.any (· ≠ '/') then ['/'] else []) ++ segment

def getFileRelativePath (basePath urlPath url : String) : Option String :=
  if urlPath.toList.isPrefixOf url.toList then
    let segments := (url.toList.drop urlPath.toList.length).splitOn '/'
    some (String.ofList (segments.foldl pushSegment basePath.toList))
  else none

/-! ### The data -/

/-- A file: its contents, and what a zip reader finds in it. -/
structure StoredFile where
  data : List UInt8
  entries : Option (List ZipEntry)

abbrev FileSystem := String → Option StoredFile

/-- A built-in provider. The state of an `ArchiveProvider` is behind an `Arc<Mutex<_>>`, and given
by its number. -/
inductive BuiltinProvider where
  | content (url : String) (content : List UInt8) (mimeType : String)
  | directory (urlPath directoryPath : String)
  | archive (state : Nat)
  deriving DecidableEq

/-- `ArchiveProviderState`. -/
structure RustArchiveState where
  urlPath : String
  archivePath : String
  loadStarted : Bool
  loadEnded : Bool
  archive : Option RustZipArchive
  pendingRequests : List RequestId

def RustArchiveState.new (urlPath archivePath : String) : RustArchiveState :=
  ⟨normalizeUrlPath urlPath, archivePath, false, false, none, []⟩

/-- `RequestState` with what is used of its `params`. -/
structure RustPendingState where
  state : RustRequestState
  url : String
  mimeType : String
  deriving DecidableEq

/-- `ResourceManagerRequest`. -/
structure RustRequest where
  url : String
  mimeType : String
  state : Option RustPendingState

inductive FileTask where
  | openFile (filePath : String) (request : RequestId)
  | openZip (state : Nat)
  deriving DecidableEq

inductive IoTask where
  | continueFile (stream : List UInt8) (request : RequestId)
  | continueZip (state : Nat)
  | continueRequest (state : RustPendingState) (handler : Option StreamResourceHandler)
  | stopRequest (state : RustPendingState)
  deriving DecidableEq

inductive ProviderEvent where
  /-- `on_request` has returned `true`. -/
  | accepted (request : RequestId) (provider : BuiltinProvider)
  /-- `on_request` has returned `false`. -/
  | declined (request : RequestId)
  /-- `ResourceManagerRequest::continue_request` is called. -/
  | continued (request : RequestId) (handler : Option StreamResourceHandler)
  deriving DecidableEq

/-- A load of the browser that waits for the callback of a request state: the number of the state,
the identifier of the request, and whether its URL has been changed meanwhile. -/
structure WaitingLoad where
  state : StateId
  identifier : Nat
  redirected : Bool

/-- The manager, the providers, the loads that wait, the request objects made so far, the posted
tasks of the two threads, and what the providers have done, newest first. -/
structure RustWorld where
  manager : RustResourceManager
  provider : EntryId → BuiltinProvider
  pendingHandlers : List (Nat × StreamResourceHandler)
  loads : List WaitingLoad
  archives : List RustArchiveState
  requests : List RustRequest
  fileTasks : List FileTask
  ioTasks : List IoTask
  log : List ProviderEvent

namespace RustWorld

/-- A manager with its providers, of which the archive providers have the given URL paths and
archive paths. -/
def new (manager : RustResourceManager) (provider : EntryId → BuiltinProvider)
    (archives : List (String × String)) : RustWorld :=
  ⟨manager, provider, [], [], archives.map fun a => .new a.1 a.2, [], [], [], []⟩

/-- `ResourceManagerRequest::continue_request`. -/
def requestContinue (w : RustWorld) (r : RequestId) (handler : Option StreamResourceHandler) :
    RustWorld :=
  let w := { w with log := .continued r handler :: w.log }
  match w.requests[r]? with
  | none => w
  | some request => match request.state with
    | none => w
    | some state =>
      { w with
        requests := w.requests.set r { request with state := none }
        ioTasks := w.ioTasks ++ [.continueRequest state handler] }

/-! ### The callbacks of the request states -/

/-- `ResourceManager::resource_handler`, called by the client, which locks the manager. -/
def resourceHandler (held : List RustMutex) (w : RustWorld) (identifier : Nat) :
    Except RustHang RustWorld := do
  let _ ← RustMutex.lock held .manager
  return { w with pendingHandlers := w.pendingHandlers.filter fun e => e.1 ≠ identifier }

/-- `drop` of a `RequestState` on the IO thread: the load that waits for its callback goes on
(`ContinueShouldInterceptRequest`). -/
def dropState (held : List RustMutex) (w : RustWorld) (state : RustPendingState) :
    Except RustHang RustWorld :=
  match w.loads.find? fun load => load.state = state.state.id with
  -- the load has been cancelled
  | none => .ok w
  | some load =>
    let w := { w with loads := w.loads.filter fun load => load.state ≠ state.state.id }
    if load.redirected then .ok w else w.resourceHandler held load.identifier

def takeState (w : RustWorld) (r : RequestId) : Option RustPendingState × RustWorld :=
  match w.requests[r]? with
  | none => (none, w)
  | some request =>
    (request.state, { w with requests := w.requests.set r { request with state := none } })

/-- The last `Arc` of a request is dropped on the IO thread, and with it the state that it still
has. -/
def dropRequest (held : List RustMutex) (w : RustWorld) (r : RequestId) : Except RustHang RustWorld :=
  match w.takeState r with
  | (none, w) => .ok w
  | (some state, w) => w.dropState held state

/-! ### The providers -/

/-- The handler that `ArchiveProviderState::continue_request` makes for a request, if the archive
has the file. -/
def archiveHandler (archive : RustArchiveState) (url mimeType : String) :
    Option StreamResourceHandler := do
  let zip ← archive.archive
  let relativePath ← getFileRelativePath "" archive.urlPath url
  let data ← zip.file relativePath
  return ⟨mimeType, data⟩

section

variable (held : List RustMutex) (w : RustWorld)
include held

/-- `ArchiveProviderState::continue_request`. -/
def archiveContinueRequest (a : Nat) (r : RequestId) :
    Except RustHang (Bool × RustWorld) := do
  let _ ← RustMutex.lock held (.request r)
  match w.archives[a]?, w.requests[r]? with
  | some archive, some request =>
    match archiveHandler archive request.url request.mimeType with
    | none => return (false, w)
    | some handler => return (true, w.requestContinue r (some handler))
  | _, _ => return (false, w)

/-- `on_request` of a content provider. The MIME type is the resolver's just when the provider has
one of its own. -/
def contentOnRequest (url : String) (content : List UInt8)
    (mimeType : String) (r : RequestId) : Except RustHang (Bool × RustWorld) := do
  let _ ← RustMutex.lock held (.request r)
  match w.requests[r]? with
  | none => return (false, w)
  | some request =>
    if request.url ≠ url then return (false, w)
    else if content.isEmpty then return (false, w)
    else
      let mimeType := if mimeType.isEmpty then mimeType else request.mimeType
      return (true, w.requestContinue r (some ⟨mimeType, content⟩))

/-- `on_request` of a directory provider. -/
def directoryOnRequest (urlPath directoryPath : String)
    (r : RequestId) : Except RustHang (Bool × RustWorld) := do
  let _ ← RustMutex.lock held (.request r)
  match w.requests[r]? with
  | none => return (false, w)
  | some request =>
    match getFileRelativePath directoryPath urlPath request.url with
    | none => return (false, w)
    | some filePath => return (true, { w with fileTasks := w.fileTasks ++ [.openFile filePath r] })

/-- `on_request` of an archive provider. The guard of the request is alive when
`ArchiveProviderState::continue_request` is called. -/
def archiveOnRequest (a : Nat) (r : RequestId) :
    Except RustHang (Bool × RustWorld) := do
  let held ← RustMutex.lock held (.archive a)
  let held ← RustMutex.lock held (.request r)
  match w.archives[a]?, w.requests[r]? with
  | some archive, some request =>
    if !archive.urlPath.toList.isPrefixOf request.url.toList then return (false, w)
    else if !archive.loadStarted then
      return (true, { w with
        archives := w.archives.set a
          { archive with
            loadStarted := true
            pendingRequests := archive.pendingRequests ++ [r] }
        fileTasks := w.fileTasks ++ [.openZip a] })
    else if archive.loadStarted && !archive.loadEnded then
      return (true, { w with
        archives := w.archives.set a
          { archive with pendingRequests := archive.pendingRequests ++ [r] } })
    else w.archiveContinueRequest held a r
  | _, _ => return (false, w)

def onRequest (provider : BuiltinProvider) (r : RequestId) : Except RustHang (Bool × RustWorld) :=
  match provider with
  | .content url content mimeType => w.contentOnRequest held url content mimeType r
  | .directory urlPath directoryPath => w.directoryOnRequest held urlPath directoryPath r
  | .archive a => w.archiveOnRequest held a r

/-! ### The manager -/

/-- `ResourceManager::stop_request`: the state is dropped at its end. -/
def stopRequest (state : RustPendingState) : Except RustHang RustWorld :=
  { w with manager := (w.manager.detachRequestFromProvider state.state).1 }.dropState held state

/-- `ResourceManagerRequest::send_request`; the caller holds the mutex of the request. -/
def requestSendRequest (r : RequestId) : Except RustHang (Option RustPendingState × RustWorld) :=
  match (w.requests[r]?).bind (·.state) with
  | none => .ok (none, w)
  | some state => do
    let held ← RustMutex.lock held .manager
    match w.manager.providers[state.state.currentEntry]? with
    | none => return w.takeState r
    | some entry =>
      let (handled, w) ← w.onRequest held (w.provider entry.id) r
      if handled then return (none, w) else return w.takeState r

end

/-- One iteration of `ResourceManager::send_request`, with the rest of the loop as `next`. -/
def sendRequestBody (next : RustWorld → RustPendingState → Except RustHang (Bool × RustWorld))
    (held : List RustMutex) (w : RustWorld) (state : RustPendingState) :
    Except RustHang (Bool × RustWorld) := do
  let r := w.requests.length
  let request : RustRequest := ⟨state.url, state.mimeType, some state⟩
  let w := { w with requests := w.requests ++ [request] }
  let held ← RustMutex.lock held (.request r)
  let (back, w) ← w.requestSendRequest held r
  match back with
  | none => return (true, w)
  | some state => match w.manager.incrementProvider state.state with
    | (true, m, s) => next { w with manager := m } { state with state := s }
    | (false, m, s) => do
      let w ← { w with manager := m }.stopRequest held { state with state := s }
      return (false, w)

/-- `ResourceManager::send_request` with at most `fuel` more iterations than one; whether the
request is potentially handled. -/
def sendRequest (held : List RustMutex) :
    Nat → RustWorld → RustPendingState → Except RustHang (Bool × RustWorld)
  | 0 => sendRequestBody (fun _ _ => .error .loops) held
  | fuel + 1 => sendRequestBody (sendRequest held fuel) held

def continueRequest (fuel : Nat) (held : List RustMutex) (w : RustWorld)
    (state : RustPendingState) (handler : Option StreamResourceHandler) :
    Except RustHang RustWorld :=
  match handler with
  | some handler =>
    let known := w.pendingHandlers.filter fun e => e.1 ≠ state.state.identifier
    { w with pendingHandlers := (state.state.identifier, handler) :: known }.stopRequest held state
  | none => match w.manager.incrementProvider state.state with
    | (true, m, s) =>
      (sendRequest held fuel { w with manager := m } { state with state := s }).map (·.2)
    | (false, m, s) => { w with manager := m }.stopRequest held { state with state := s }

/-- `ResourceManager::on_before_resource_load`, called through the guard of the manager; what it
returns. -/
def onBeforeResourceLoad (fuel : Nat) (w : RustWorld) (identifier : Nat) (url mimeType : String) :
    Except RustHang (ReturnValue × RustWorld) := do
  let held ← RustMutex.lock [] .manager
  let firstEntry := w.manager.getNextValidProvider 0
  if firstEntry = w.manager.providers.length then return (.continue_, w)
  else
    let state : RustPendingState := ⟨⟨w.manager.nextState, identifier, firstEntry, 0⟩, url, mimeType⟩
    let w := { w with
      manager := { w.manager with nextState := w.manager.nextState + 1 }
      loads := ⟨w.manager.nextState, identifier, false⟩ :: w.loads }
    let (handled, w) ← sendRequest held fuel w state
    return (if handled then .continueAsync else .continue_, w)

/-! ### The tasks -/

section Tasks

variable (toLowercase : String → String) (fs : FileSystem)

/-- What `OpenZipRequest` makes of the file at a path: the archive, unless it cannot be opened or
nothing can be loaded from it. -/
def loadArchive (archivePath : String) : Except RustHang (Option RustZipArchive) :=
  match fs archivePath with
  | none => .ok none
  | some file => do
    let (archive, count) ← RustZipArchive.load toLowercase true file.entries
    return if count = 0 then none else some archive

def fileTask (w : RustWorld) : FileTask → Except RustHang RustWorld
  | .openFile filePath r => match fs filePath with
    | none => .ok w
    | some file => .ok { w with ioTasks := w.ioTasks ++ [.continueFile file.data r] }
  | .openZip a => do
    let _ ← RustMutex.lock [] (.archive a)
    match w.archives[a]? with
    | none => return w
    | some archive => match ← loadArchive toLowercase fs archive.archivePath with
      | none => return w
      | some zip => return { w with
          archives := w.archives.set a { archive with archive := some zip }
          ioTasks := w.ioTasks ++ [.continueZip a] }

/-- The loop of `ContinueZipRequest` over the requests that it has taken. -/
def continueZipLoop (held : List RustMutex) (a : Nat) :
    List RequestId → RustWorld → Except RustHang RustWorld
  | [], w => .ok w
  | r :: rest, w => do
    let (continued, w) ← w.archiveContinueRequest held a r
    let w ← if continued then pure w else w.dropRequest held r
    continueZipLoop held a rest w

def ioTask (fuel : Nat) (w : RustWorld) : IoTask → Except RustHang RustWorld
  | .continueFile stream r => do
    let _ ← RustMutex.lock [] (.request r)
    match w.requests[r]? with
    | none => return w
    | some request => return w.requestContinue r (some ⟨request.mimeType, stream⟩)
  | .continueZip a => do
    let held ← RustMutex.lock [] (.archive a)
    match w.archives[a]? with
    | none => return w
    | some archive =>
      continueZipLoop held a archive.pendingRequests { w with
        archives := w.archives.set a { archive with loadEnded := true, pendingRequests := [] } }
  | .continueRequest state handler => do
    let held ← RustMutex.lock [] .manager
    w.continueRequest fuel held state handler
  | .stopRequest state => do
    let held ← RustMutex.lock [] .manager
    w.stopRequest held state

def runFileTask (w : RustWorld) : Except RustHang RustWorld :=
  match w.fileTasks with
  | [] => .ok w
  | task :: rest => fileTask toLowercase fs { w with fileTasks := rest } task

def runIoTask (fuel : Nat) (w : RustWorld) : Except RustHang RustWorld :=
  match w.ioTasks with
  | [] => .ok w
  | task :: rest => ioTask fuel { w with ioTasks := rest } task

end Tasks

end RustWorld

end CefCore.ResourceManager
