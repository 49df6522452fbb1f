import CefCore.Browser.StateJournal
import CefCore.Foundations.FilePath

/-!
# The storage state manager

`CefStorageStateManagerImpl` of `libcef/browser/storage_state_manager_impl.cc`: the calls of one
manager, the tasks they post to the thread pool, and the directory with the state files, which all
managers share.

## Main definitions

* `StorageWorld.step`: a call, a task or a reply.

## Implementation notes

* Callbacks are run at the end of a function, so that a call made by one is a step behind it. The
  same goes for the calls stored until `Initialize`: each of them is a step of its own.
* Times are in microseconds. The dictionary of an entry is the record `StateEntry`.
* `performedAt`, `removed` and `gone` are not in the program. A listing is marked with the time of
  its enumeration. A file that a task has removed is `removed` until the task's reply has run, then
  `gone`, and neither as soon as there is a file of this name again.
* The files of the state journal are on a disk of their own: no function here takes them for state
  files. Whether a file can be deleted or moved is up to the system.
-/

namespace CefCore.Browser

open List

/-! ### State files -/

/-- `kAgentBrowserDirectory`. -/
def agentBrowserDirectory : String := ".agent-browser"

/-- `kSessionsDirectory`. -/
def sessionsDirectory : String := "sessions"

/-- `kDefaultSessionName`. -/
def defaultSessionName : String := "default"

/-- `kJsonExtension`. -/
def jsonExtension : String := ".json"

/-- `kJsonEncryptedExtension`. -/
def jsonEncryptedExtension : String := ".json.enc"

/-- A file: its bytes and the time of its last change. -/
structure StateFile where
  contents : Bytes
  modified : Int
  deriving DecidableEq

/-- `GetDefaultSessionsDirectory`, with the home directory, if there is one. -/
def getDefaultSessionsDirectory (home : String) : String :=
  if home = "" then ""
  else FilePath.append (FilePath.append home agentBrowserDirectory) sessionsDirectory

/-- The default sessions directory of a home directory: whether it exists, and its files by name. -/
structure SessionsDirectory where
  home : String
  present : Bool
  files : List (FilePath.Name × StateFile)

def isStateFile (path : String) : Bool :=
  FilePath.endsWith (FilePath.baseName path) jsonExtension ||
    FilePath.endsWith (FilePath.baseName path) jsonEncryptedExtension

def isValidSessionName (sessionName : String) : Bool :=
  sessionName.toList.all fun c => c.isAlphanum || c = '_' || c = '-'

lemma isName_append_extension {sessionName extension : String}
    (hvalid : isValidSessionName sessionName = true) (hextension : FilePath.IsName extension) :
    FilePath.IsName (sessionName ++ extension) := by
  refine ⟨fun hempty => ?_, fun hslash => ?_⟩
  · have hnil := congrArg String.toList hempty
    rw [String.toList_append] at hnil
    exact FilePath.toList_ne_nil hextension.1 (append_eq_nil_iff.mp hnil).2
  · rw [String.toList_append] at hslash
    rcases mem_append.mp hslash with hslash | hslash
    · exact absurd (all_eq_true.mp hvalid '/' hslash) (by decide)
    · exact hextension.2 hslash

/-- The dictionary of `MakeEntryDict`. -/
structure StateEntry where
  filename : String
  path : String
  size : Nat
  modified : Int
  encrypted : Bool

def makeEntryDict (path : String) (size : Nat) (modified : Int) : StateEntry where
  filename := FilePath.baseName path
  path := path
  size := size
  modified := modified
  encrypted := FilePath.endsWith (FilePath.baseName path) jsonEncryptedExtension

def safeSessionName (sessionName : String) : String :=
  if sessionName = "" then defaultSessionName else sessionName

def buildStatePath (directory sessionName : String) : String :=
  FilePath.append directory (safeSessionName sessionName ++ jsonExtension)

/-- `StorageStateListResult`, with the time of the enumeration. -/
structure StorageStateListResult where
  success : Bool := false
  error : String := ""
  directory : String := ""
  entries : List StateEntry := []
  performedAt : Int := 0

/-- The dictionary of a `StorageStateReadResult`. -/
inductive StateReport where
  | empty
  | shown (entry : StateEntry) (summary : String)
  | cleaning (days : Int) (counts : Option (Nat × Nat))

structure StorageStateReadResult where
  success : Bool := false
  error : String := ""
  result : StateReport := .empty

structure StorageStateActionResult where
  success : Bool := false
  error : String := ""
  path : String := ""

namespace SessionsDirectory

section

variable (d : SessionsDirectory)

/-- `GetDefaultStateDirectoryPath`. -/
def path : String := getDefaultSessionsDirectory d.home

def lookup (name : String) : Option StateFile :=
  (d.files.find? fun e => e.1.val = name).map (·.2)

def remove (name : String) : SessionsDirectory :=
  { d with files := d.files.filter fun e => e.1.val ≠ name }

def put (name : FilePath.Name) (file : StateFile) : SessionsDirectory :=
  { d with files := (name, file) :: (d.remove name.val).files }

/-- `base::DeleteFile`. It is no failure that there is no such file. -/
def deleteFile (name : String) (deleteOk : String → Bool) : Bool × SessionsDirectory :=
  if deleteOk name then (true, d.remove name) else (false, d)

def names : List String := d.files.map (·.1.val)

end

lemma lookup_eq_none_iff {d : SessionsDirectory} {name : String} :
    d.lookup name = none ↔ name ∉ d.names := by
  simp only [lookup, names, Option.map_eq_none_iff, find?_eq_none, decide_eq_true_eq,
    mem_map, not_exists, not_and]

lemma lookup_remove (d : SessionsDirectory) (name name' : String) :
    (d.remove name).lookup name' = if name' = name then none else d.lookup name' := by
  unfold remove lookup
  rw [find?_filter]
  split
  · rename_i heq
    subst heq
    simp
  · rename_i hne
    congr 2
    funext e
    by_cases he : e.1.val = name'
    · simp [he, hne]
    · simp [he]

lemma isDirectory_path {d : SessionsDirectory} (h : d.path ≠ "") : FilePath.IsDirectory d.path := by
  unfold path getDefaultSessionsDirectory at h ⊢
  split
  · rename_i hhome
    rw [if_pos hhome] at h
    exact absurd rfl h
  · exact FilePath.isDirectory_append _ (by decide) (by decide)

end SessionsDirectory

/-- `ListStatesOnBlockingThread`. -/
def listStates (d : SessionsDirectory) (now : Int) : StorageStateListResult :=
  if d.path = "" then { error := "Default state directory is unavailable." }
  else if !d.present then { success := true, directory := d.path, performedAt := now }
  else
    { success := true
      directory := d.path
      entries := (d.files.filter fun e => isStateFile (FilePath.append d.path e.1.val)).map fun e =>
        makeEntryDict (FilePath.append d.path e.1.val) e.2.contents.length e.2.modified
      performedAt := now }

/-- `ShowStateOnBlockingThread`. -/
def showState (d : SessionsDirectory) (path : String) : StorageStateReadResult :=
  if path = "" then { error := "State path is empty." }
  else
    match d.lookup (FilePath.baseName path) with
    | none => { error := "State file does not exist." }
    | some file =>
      { success := true
        result := .shown (makeEntryDict path file.contents.length file.modified)
          "Storage state scaffolding is not yet implemented." }

def renamedExtension (oldPath : String) : String :=
  if FilePath.endsWith (FilePath.baseName oldPath) jsonEncryptedExtension then
    jsonEncryptedExtension
  else jsonExtension

lemma isName_renamedExtension (oldPath : String) : FilePath.IsName (renamedExtension oldPath) := by
  unfold renamedExtension
  split <;> decide

/-- `RenameStateOnBlockingThread`. -/
def renameState (d : SessionsDirectory) (oldPath newName : String) (moveOk : Bool) :
    StorageStateActionResult × SessionsDirectory :=
  if oldPath = "" then ({ error := "State path is empty." }, d)
  else if newName = "" then ({ error := "New state name is empty." }, d)
  else if hvalid : isValidSessionName newName then
    match d.lookup (FilePath.baseName oldPath) with
    | none => ({ error := "State file does not exist." }, d)
    | some file =>
      let newPath := FilePath.append (FilePath.dirName oldPath) (newName ++ renamedExtension oldPath)
      if !moveOk then ({ error := "Failed to rename state file." }, d)
      else
        ({ success := true, path := newPath }, (d.remove (FilePath.baseName oldPath)).put
            ⟨newName ++ renamedExtension oldPath,
              isName_append_extension hvalid (isName_renamedExtension oldPath)⟩ file)
  else ({ error := "State name must match /^[A-Za-z0-9_-]+$/." }, d)

/-- The loop of `ClearStatesOnBlockingThread` over the files of the directory. -/
def clearLoop (path : String) (deleteOk : String → Bool) (d : SessionsDirectory) :
    List String → SessionsDirectory
  | [] => d
  | name :: names =>
    if !isStateFile (FilePath.append path name) then clearLoop path deleteOk d names
    else clearLoop path deleteOk (d.deleteFile name deleteOk).2 names

/-- `ClearStatesOnBlockingThread`. -/
def clearStates (d : SessionsDirectory) (path : Option String) (deleteOk : String → Bool) :
    StorageStateActionResult × SessionsDirectory :=
  match path with
  | some path =>
    match d.deleteFile (FilePath.baseName path) deleteOk with
    | (false, d) => ({ error := "Failed to delete state file." }, d)
    | (true, d) => ({ success := true, path := path }, d)
  | none =>
    if d.path = "" then ({ error := "Default state directory is unavailable." }, d)
    else if !d.present then ({ success := true, path := d.path }, d)
    else ({ success := true, path := d.path }, clearLoop d.path deleteOk d d.names)

/-- The loop of `CleanStatesOnBlockingThread`, with the numbers of files cleaned and kept. -/
def cleanLoop (path : String) (deleteOk : String → Bool) (now maxAge : Int)
    (s : SessionsDirectory × Nat × Nat) :
    List (FilePath.Name × StateFile) → SessionsDirectory × Nat × Nat
  | [] => s
  | (name, file) :: files =>
    if !isStateFile (FilePath.append path name.val) then cleanLoop path deleteOk now maxAge s files
    else if maxAge < now - file.modified then
      match s.1.deleteFile name.val deleteOk with
      | (true, d) => cleanLoop path deleteOk now maxAge (d, s.2.1 + 1, s.2.2) files
      | (false, d) => cleanLoop path deleteOk now maxAge (d, s.2.1, s.2.2 + 1) files
    else cleanLoop path deleteOk now maxAge (s.1, s.2.1, s.2.2 + 1) files

/-- `base::Days`. -/
def daysToMicroseconds (days : Int) : Int := days * 86400000000

/-- `CleanStatesOnBlockingThread`. -/
def cleanStates (d : SessionsDirectory) (days now : Int) (deleteOk : String → Bool) :
    StorageStateReadResult × SessionsDirectory :=
  if d.path = "" then
    ({ error := "Default state directory is unavailable.", result := .cleaning days none }, d)
  else if !d.present then ({ success := true, result := .cleaning days (some (0, 0)) }, d)
  else
    let (d, counts) :=
      cleanLoop d.path deleteOk now (daysToMicroseconds (max days 0)) (d, 0, 0) d.files
    ({ success := true, result := .cleaning days (some counts) }, d)

/-! ### The object and its tasks -/

/-- `CachedDirectoryState`, with the time of the enumeration. -/
structure CachedDirectoryState where
  lastEnumerated : Int
  entries : List StateEntry
  directory : String
  valid : Bool
  performedAt : Int

inductive StorageRequest where
  | save (path : String)
  | load (path : String)
  | list
  | show (path : String)
  | rename (path newName : String)
  | clear (path : String)
  | cleanOlderThan (days : Int)

structure StorageCall where
  request : StorageRequest
  callback : Bool

/-- `CefStorageStateManagerImpl`. -/
structure CefStorageStateManager where
  initialized : Bool
  initCallbacks : List StorageCall
  sessionName : String
  dirty : Bool
  modifiedOrigins : List String
  cachedDirectoryState : CachedDirectoryState
  journal : Option CefStateJournal

def CefStorageStateManager.new : CefStorageStateManager :=
  ⟨false, [], "", true, [], ⟨0, [], "", false, 0⟩, none⟩

inductive StorageTask where
  | list
  | show (path : String)
  | rename (oldPath newName : String)
  | clear (path : Option String)
  | clean (days : Int)

/-- The result of a task, with the files it has removed and that have not come back. -/
inductive StorageReply where
  | list (result : StorageStateListResult)
  | action (result : StorageStateActionResult) (removed : List String)
  | read (result : StorageStateReadResult) (removed : List String)

inductive PostedTask where
  | posted (task : StorageTask) (callback : Bool)
  | finished (reply : StorageReply) (callback : Bool)
  | replied

/-- What happens. A listing comes with the time, whether it is from the cache, and the files that
are gone. -/
inductive StorageEvent where
  | markedDirty
  | flushed
  | skippedSave
  | action (success : Bool) (error path : String)
  | read (result : StorageStateReadResult)
  | listed (result : StorageStateListResult) (now : Int) (fromCache : Bool) (gone : List String)

structure StorageWorld where
  manager : CefStorageStateManager
  directory : SessionsDirectory
  journalDisk : Disk
  now : Int
  tasks : List PostedTask
  gone : List String
  log : List StorageEvent

/-- `base::Seconds(5)`. -/
def cacheLifetime : Int := 5000000

def CefStorageStateManager.getDefaultStateFilePath (m : CefStorageStateManager)
    (directory : String) : String :=
  if directory = "" then "" else buildStatePath directory m.sessionName

def resolveManagedStatePath (directory path : String) : String :=
  if directory = "" then ""
  else
    let inputPath := FilePath.ofString path
    if inputPath = "" then ""
    else if FilePath.isAbsolute inputPath then
      if FilePath.dirName inputPath ≠ directory || !isStateFile inputPath then "" else inputPath
    else if FilePath.baseName inputPath ≠ inputPath || !isStateFile inputPath then ""
    else FilePath.append directory inputPath

def managedPathError : String := "State path must reference a managed session file."

def CefStorageStateManager.markDirty (m : CefStorageStateManager) (origin : String) :
    CefStorageStateManager :=
  { m with
    dirty := true
    modifiedOrigins := if origin = "" then m.modifiedOrigins else m.modifiedOrigins.insert origin }

def CefStorageStateManager.clearDirty (m : CefStorageStateManager) : CefStorageStateManager :=
  { m with dirty := false, modifiedOrigins := [] }

def CefStorageStateManager.cacheUsable (m : CefStorageStateManager) (directory : String)
    (now : Int) : Bool :=
  m.cachedDirectoryState.valid && m.cachedDirectoryState.directory = directory &&
    now - m.cachedDirectoryState.lastEnumerated < cacheLifetime

/-- The files of `names` that are not there. -/
def stillGone (d : SessionsDirectory) (names : List String) : List String :=
  names.filter fun name => (d.lookup name).isNone

/-- A result whose removed files are looked for again. -/
def StorageReply.recheck (d : SessionsDirectory) : StorageReply → StorageReply
  | .list result => .list result
  | .action result removed => .action result (stillGone d removed)
  | .read result removed => .read result (stillGone d removed)

/-- A task whose removed files are looked for again. -/
def PostedTask.recheck (d : SessionsDirectory) : PostedTask → PostedTask
  | .posted task callback => .posted task callback
  | .finished reply callback => .finished (reply.recheck d) callback
  | .replied => .replied

/-- The files that a successful task has removed. -/
def StorageReply.completed : StorageReply → List String
  | .list _ => []
  | .action result removed => if result.success then removed else []
  | .read result removed => if result.success then removed else []

def CefStorageStateManager.cachedResult (m : CefStorageStateManager) : StorageStateListResult where
  success := true
  directory := m.cachedDirectoryState.directory
  entries := m.cachedDirectoryState.entries
  performedAt := m.cachedDirectoryState.performedAt

namespace StorageWorld

section

variable (w : StorageWorld)

def runActionCallback (callback success : Bool) (error path : String) : StorageWorld :=
  if callback then { w with log := .action success error path :: w.log } else w

/-- `base::ThreadPool::PostTaskAndReplyWithResult`. -/
def postTask (task : StorageTask) (callback : Bool) : StorageWorld :=
  { w with tasks := w.tasks ++ [.posted task callback] }

def onListComplete (callback : Bool) (result : StorageStateListResult)
    (fromCache : Bool) : StorageWorld :=
  let w :=
    if result.success then
      { w with manager := { w.manager with
          cachedDirectoryState :=
            ⟨w.now, result.entries, result.directory, true, result.performedAt⟩ } }
    else w
  if callback then { w with log := .listed result w.now fromCache w.gone :: w.log } else w

def onReadComplete (callback : Bool) (result : StorageStateReadResult) : StorageWorld :=
  if callback then { w with log := .read result :: w.log } else w

def onActionComplete (callback : Bool) (result : StorageStateActionResult) : StorageWorld :=
  let w :=
    if result.success then
      { w with manager := { w.manager.clearDirty with
          cachedDirectoryState := { w.manager.cachedDirectoryState with valid := false } } }
    else w
  w.runActionCallback callback result.success result.error result.path

end

/-- The part of `SaveInternal` behind the choice of the path. -/
def saveToJournal (codec : JsonCodec) (w : StorageWorld) (outputPath : String) (callback : Bool)
    (answer : SystemAnswer) : StorageWorld :=
  match w.manager.journal with
  | none =>
    w.runActionCallback callback false "Storage state save requires journal initialization."
      outputPath
  | some journal =>
    if !journal.isOpen then
      w.runActionCallback callback false "Storage state save requires journal initialization."
        outputPath
    else
      let j : JournalWorld := ⟨journal, w.journalDisk, []⟩
      if !j.flush then
        w.runActionCallback callback false "Failed to flush state journal." outputPath
      else
        let j :=
          if journal.compactionThreshold ≤ journal.pendingOps then (j.compact codec answer).2 else j
        { w with
          manager := { w.manager with journal := some j.journal }.clearDirty
          journalDisk := j.disk
          log := .flushed :: w.log }.runActionCallback callback true "" outputPath

def saveInternal (codec : JsonCodec) (w : StorageWorld) (path : String) (callback : Bool)
    (answer : SystemAnswer) : StorageWorld :=
  let defaultPath := w.manager.getDefaultStateFilePath w.directory.path
  if !w.manager.dirty then
    { w with log := .skippedSave :: w.log }.runActionCallback callback true ""
      (if path = "" then defaultPath else FilePath.ofString path)
  else
    let outputPath :=
      if path = "" then defaultPath else resolveManagedStatePath w.directory.path path
    if outputPath = "" then
      w.runActionCallback callback false
        (if path = "" then "Default state path is unavailable." else managedPathError) ""
    else w.saveToJournal codec outputPath callback answer

section

variable (w : StorageWorld)

def loadInternal (path : String) (callback : Bool) : StorageWorld :=
  if path = "" then w.runActionCallback callback false "State path is empty." ""
  else
    let inputPath := resolveManagedStatePath w.directory.path path
    if inputPath = "" then w.runActionCallback callback false managedPathError ""
    else
      w.runActionCallback callback false
        "Storage state load is not implemented in this scaffold." inputPath

def listInternal (callback : Bool) : StorageWorld :=
  if w.manager.cacheUsable w.directory.path w.now then
    w.onListComplete callback w.manager.cachedResult true
  else w.postTask .list callback

def showInternal (path : String) (callback : Bool) : StorageWorld :=
  let statePath := resolveManagedStatePath w.directory.path path
  if statePath = "" then w.onReadComplete callback { error := managedPathError }
  else w.postTask (.show statePath) callback

def renameInternal (path newName : String) (callback : Bool) : StorageWorld :=
  let oldPath := resolveManagedStatePath w.directory.path path
  if oldPath = "" then w.runActionCallback callback false managedPathError ""
  else w.postTask (.rename oldPath newName) callback

/-- `ClearInternal`. An empty path stands for all files. -/
def clearInternal (path : String) (callback : Bool) : StorageWorld :=
  if path = "" then w.postTask (.clear none) callback
  else
    let resolvedPath := resolveManagedStatePath w.directory.path path
    if resolvedPath = "" then w.runActionCallback callback false managedPathError ""
    else w.postTask (.clear (some resolvedPath)) callback

def cleanOlderThanInternal (days : Int) (callback : Bool) : StorageWorld :=
  w.postTask (.clean days) callback

end

def execute (codec : JsonCodec) (w : StorageWorld) (answer : SystemAnswer) :
    StorageCall → StorageWorld
  | ⟨.save path, callback⟩ => w.saveInternal codec path callback answer
  | ⟨.load path, callback⟩ => w.loadInternal path callback
  | ⟨.list, callback⟩ => w.listInternal callback
  | ⟨.show path, callback⟩ => w.showInternal path callback
  | ⟨.rename path newName, callback⟩ => w.renameInternal path newName callback
  | ⟨.clear path, callback⟩ => w.clearInternal path callback
  | ⟨.cleanOlderThan days, callback⟩ => w.cleanOlderThanInternal days callback

def storeOrTriggerInitCallback (codec : JsonCodec) (w : StorageWorld) (call : StorageCall)
    (answer : SystemAnswer) : StorageWorld :=
  if w.manager.initialized then w.execute codec answer call
  else { w with manager := { w.manager with
      initCallbacks := w.manager.initCallbacks ++ [call] } }

/-- `Initialize`, without the calls that have been stored. -/
def initializeAt (codec : JsonCodec) (w : StorageWorld) (answer : SystemAnswer) : StorageWorld :=
  if w.manager.initialized then w
  else if w.directory.path = "" then { w with manager := { w.manager with initialized := true } }
  else
    let journalPath := FilePath.append w.directory.path
      (safeSessionName w.manager.sessionName ++ ".journal")
    let (ok, j) := (JournalWorld.start w.journalDisk).initializeAt codec journalPath answer
    { w with
      manager := { w.manager with
        initialized := true
        journal := if ok then some j.journal else none }
      journalDisk := j.disk }

def runInitCallback (codec : JsonCodec) (w : StorageWorld) (answer : SystemAnswer) :
    Option StorageWorld :=
  match w.manager.initialized, w.manager.initCallbacks with
  | true, call :: calls =>
    some ({ w with manager := { w.manager with initCallbacks := calls } }.execute codec answer call)
  | _, _ => none

section

variable (w : StorageWorld)

def setSessionName (sessionName : String) : StorageWorld :=
  if !isValidSessionName sessionName then w
  else { w with manager := { w.manager with sessionName := sessionName } }

def withDirectory (d : SessionsDirectory) : StorageWorld :=
  { w with
    directory := d
    gone := stillGone d w.gone
    tasks := w.tasks.map (PostedTask.recheck d) }

/-- The body of a task: its result and the directory behind it. The system may fail to delete or
move files. -/
def runBody (deleteOk : String → Bool) (moveOk : Bool) :
    StorageTask → StorageReply × SessionsDirectory
  | .list => (.list (listStates w.directory w.now), w.directory)
  | .show path => (.read (showState w.directory path) [], w.directory)
  | .rename oldPath newName =>
    let (result, d) := renameState w.directory oldPath newName moveOk
    (.action result (stillGone d w.directory.names), d)
  | .clear path =>
    let (result, d) := clearStates w.directory path deleteOk
    (.action result (stillGone d w.directory.names), d)
  | .clean days =>
    let (result, d) := cleanStates w.directory days w.now deleteOk
    (.read result (stillGone d w.directory.names), d)

def runTask (i : Nat) (deleteOk : String → Bool) (moveOk : Bool) : Option StorageWorld :=
  match w.tasks[i]? with
  | some (.posted task callback) =>
    let (reply, d) := w.runBody deleteOk moveOk task
    let w := w.withDirectory d
    some { w with tasks := w.tasks.set i (.finished reply callback) }
  | _ => none

/-- The reply of a task runs on the UI thread. -/
def reply (i : Nat) : Option StorageWorld :=
  match w.tasks[i]? with
  | some (.finished reply callback) =>
    let w := { w with
      tasks := w.tasks.set i .replied
      gone := reply.completed ++ w.gone }
    match reply with
    | .list result => some (w.onListComplete callback result false)
    | .action result _ => some (w.onActionComplete callback result)
    | .read result _ => some (w.onReadComplete callback result)
  | _ => none

end

end StorageWorld

/-- The steps of a run. Other programs may write state files. -/
inductive StorageAction where
  | initializeAt (answer : SystemAnswer)
  | runInitCallback (answer : SystemAnswer)
  | call (call : StorageCall) (answer : SystemAnswer)
  | markDirty (origin : String)
  | setSessionName (sessionName : String)
  | runTask (i : Nat) (deleteOk : String → Bool) (moveOk : Bool)
  | reply (i : Nat)
  | writeFile (name : FilePath.Name) (file : StateFile)
  | wait (microseconds : Nat)

namespace StorageWorld

def step (codec : JsonCodec) (w : StorageWorld) : StorageAction → Option StorageWorld
  | .initializeAt answer => some (w.initializeAt codec answer)
  | .runInitCallback answer => w.runInitCallback codec answer
  | .call call answer => some (w.storeOrTriggerInitCallback codec call answer)
  | .markDirty origin => some { w with
      manager := w.manager.markDirty origin
      log := .markedDirty :: w.log }
  | .setSessionName sessionName => some (w.setSessionName sessionName)
  | .runTask i deleteOk moveOk => w.runTask i deleteOk moveOk
  | .reply i => w.reply i
  | .writeFile name file =>
    some (w.withDirectory ({ w.directory with present := true }.put name file))
  | .wait microseconds => some { w with now := w.now + microseconds }

def start (directory : SessionsDirectory) (journalDisk : Disk) (now : Int) : StorageWorld :=
  ⟨.new, directory, journalDisk, now, [], [], []⟩

end StorageWorld

end CefCore.Browser
