import CefCore.Browser.AuthVault
import CefCore.Browser.StorageStateRename
import CefCore.Foundations.FilePathComponents

/-!
# The paths that agents can make the browser touch

The storage state manager and the auth vault take file names and paths from their callers.
`ResolveManagedStatePath` refuses those that do not name a state file in the sessions directory, and
`IsValidProfileName` those that are more than a name.

## Main results

* `pathsConfined_iff`: when the tasks of both touch no other files.

## Implementation notes

* The vault also uses its key file, which is beside its directory. Its path does not depend on any
  argument.
* Without a home directory the path of the vault is empty, and a name joined to the empty path is a
  file in the current directory.
-/

namespace CefCore.Browser

open List Option FilePath Script

/-! ### State paths -/

/-- A direct child of a directory, with the name of a state file. -/
def IsStatePath (directory path : String) : Prop :=
  FilePath.IsChild directory path ∧ isStateFile path = true

lemma isDirectory_sessions {home : String} (h : getDefaultSessionsDirectory home ≠ "") :
    FilePath.IsDirectory (getDefaultSessionsDirectory home) :=
  SessionsDirectory.isDirectory_path (d := ⟨home, true, []⟩) h

variable {directory name path : String}

lemma getLast?_of_endsWith {suffix : String} {c : Char}
    (h : FilePath.endsWith name suffix = true) (hc : suffix.toList.getLast? = some c) :
    name.toList.getLast? = some c := by
  obtain ⟨front, hfront⟩ := isSuffixOf_iff_suffix.mp h
  have hne : suffix.toList ≠ [] := fun hnil => by rw [hnil] at hc; cases hc
  rw [← hfront, getLast?_append_of_ne_nil _ hne, hc]

lemma getLast?_of_isStateFile (h : isStateFile path = true) :
    ∃ c, (FilePath.baseName path).toList.getLast? = some c ∧ c ≠ '/' ∧ c ≠ '.' := by
  unfold isStateFile at h
  rcases Bool.or_eq_true _ _ ▸ h with h | h
  · exact ⟨'n', getLast?_of_endsWith h (by decide), by decide, by decide⟩
  · exact ⟨'c', getLast?_of_endsWith h (by decide), by decide, by decide⟩

lemma isStatePath_append (hdirectory : FilePath.IsDirectory directory)
    (hname : FilePath.IsName name) (hfile : isStateFile name = true) :
    IsStatePath directory (FilePath.append directory name) := by
  have hbase := baseName_of_isName hname
  obtain ⟨c, hlast, -, hdot⟩ := getLast?_of_isStateFile hfile
  rw [hbase] at hlast
  refine ⟨isChild_append hdirectory hname (fun heq => ?_) (fun heq => ?_), ?_⟩
  · rw [heq] at hlast
    exact hdot (some.inj hlast).symm
  · rw [heq] at hlast
    exact hdot (some.inj hlast).symm
  · unfold isStateFile at hfile ⊢
    rwa [baseName_append hdirectory hname, ← hbase]

lemma isChild_append_extension {extension : String} {c : Char}
    (hdirectory : FilePath.IsDirectory directory) (hvalid : isValidSessionName name = true)
    (hextension : FilePath.IsName extension) (hlast : extension.toList.getLast? = some c)
    (hc : c ≠ '.') :
    FilePath.IsChild directory (FilePath.append directory (name ++ extension)) := by
  have hend : (name ++ extension).toList.getLast? = some c := by
    rw [String.toList_append, getLast?_append_of_ne_nil _ (toList_ne_nil hextension.1), hlast]
  refine isChild_append hdirectory (isName_append_extension hvalid hextension)
    (fun heq => ?_) fun heq => ?_
  · rw [heq] at hend
    exact hc (some.inj hend).symm
  · rw [heq] at hend
    exact hc (some.inj hend).symm

lemma resolveManagedStatePath_cases (h : resolveManagedStatePath directory path ≠ "") :
    directory ≠ "" ∧
      ∃ input, isStateFile input = true ∧
        (FilePath.isAbsolute input = true ∧ FilePath.dirName input = directory ∧
            resolveManagedStatePath directory path = input ∨
          FilePath.baseName input = input ∧
            resolveManagedStatePath directory path = FilePath.append directory input) := by
  unfold resolveManagedStatePath at h ⊢
  by_cases hdirectory : directory = ""
  · rw [if_pos hdirectory] at h
    exact absurd rfl h
  by_cases hinput : FilePath.ofString path = ""
  · rw [if_neg hdirectory, if_pos hinput] at h
    exact absurd rfl h
  rw [if_neg hdirectory, if_neg hinput] at h ⊢
  refine ⟨hdirectory, FilePath.ofString path, ?_⟩
  by_cases habsolute : FilePath.isAbsolute (FilePath.ofString path) = true
  · rw [if_pos habsolute] at h ⊢
    split at h
    · exact absurd rfl h
    · rename_i hcheck
      have hcheck' : FilePath.dirName (FilePath.ofString path) = directory ∧
          isStateFile (FilePath.ofString path) = true := by simpa using hcheck
      rw [if_neg hcheck]
      exact ⟨hcheck'.2, .inl ⟨habsolute, hcheck'.1, rfl⟩⟩
  · rw [if_neg habsolute] at h ⊢
    split at h
    · exact absurd rfl h
    · rename_i hcheck
      have hcheck' : FilePath.baseName (FilePath.ofString path) = FilePath.ofString path ∧
          isStateFile (FilePath.ofString path) = true := by simpa using hcheck
      rw [if_neg hcheck]
      exact ⟨hcheck'.2, .inr ⟨hcheck'.1, rfl⟩⟩

theorem isStatePath_resolve {home : String}
    (h : resolveManagedStatePath (getDefaultSessionsDirectory home) path ≠ "") :
    IsStatePath (getDefaultSessionsDirectory home)
        (resolveManagedStatePath (getDefaultSessionsDirectory home) path) ∧
      FilePath.dirName (resolveManagedStatePath (getDefaultSessionsDirectory home) path) =
        getDefaultSessionsDirectory home := by
  obtain ⟨hne, input, hfile, ⟨habsolute, hdir, heq⟩ | ⟨hbase, heq⟩⟩ := resolveManagedStatePath_cases h
  · obtain ⟨c, hlast, hc, hdot⟩ := getLast?_of_isStateFile hfile
    rw [heq]
    exact ⟨⟨hdir ▸ isChild_dirName habsolute hlast hc hdot, hfile⟩, hdir⟩
  · obtain ⟨c, hlast, hc, -⟩ := getLast?_of_isStateFile hfile
    have hname := (isName_baseName hlast hc).1
    rw [hbase] at hname
    rw [heq]
    exact ⟨isStatePath_append (isDirectory_sessions hne) hname hfile,
      dirName_append (isDirectory_sessions hne) hname⟩

/-! ### The tasks of the storage state manager -/

/-- The files that the body of a task is given by its call. -/
def StorageTask.touched : StorageTask → List String
  | .list => []
  | .show path => [path]
  | .rename oldPath newName =>
    if newName ≠ "" ∧ isValidSessionName newName = true then
      [oldPath, FilePath.append (FilePath.dirName oldPath) (newName ++ renamedExtension oldPath)]
    else [oldPath]
  | .clear path => path.toList
  | .clean _ => []

def StorageTask.Confined (directory : String) (task : StorageTask) : Prop :=
  ∀ path ∈ task.touched, IsStatePath directory path

section Tasks

variable {home path newName : String}

lemma confined_show (h : resolveManagedStatePath (getDefaultSessionsDirectory home) path ≠ "") :
    (StorageTask.show (resolveManagedStatePath (getDefaultSessionsDirectory home) path)).Confined
      (getDefaultSessionsDirectory home) := by
  intro p hp
  rw [mem_singleton.mp hp]
  exact (isStatePath_resolve h).1

lemma confined_clear (h : resolveManagedStatePath (getDefaultSessionsDirectory home) path ≠ "") :
    (StorageTask.clear (some (resolveManagedStatePath (getDefaultSessionsDirectory home)
      path))).Confined (getDefaultSessionsDirectory home) := by
  intro p hp
  rw [mem_singleton.mp hp]
  exact (isStatePath_resolve h).1

lemma confined_rename (h : resolveManagedStatePath (getDefaultSessionsDirectory home) path ≠ "") :
    (StorageTask.rename (resolveManagedStatePath (getDefaultSessionsDirectory home) path)
      newName).Confined (getDefaultSessionsDirectory home) := by
  obtain ⟨hold, hdir⟩ := isStatePath_resolve h
  intro p hp
  simp only [StorageTask.touched] at hp
  split at hp
  · rename_i hvalid
    rcases mem_cons.mp hp with rfl | hp
    · exact hold
    · rw [mem_singleton.mp hp, hdir]
      have hname := isName_append_extension hvalid.2 (isName_renamedExtension
        (resolveManagedStatePath (getDefaultSessionsDirectory home) path))
      exact isStatePath_append (isDirectory_sessions hold.1.ne) hname
        (isStateFile_renamedTo hvalid.2)
  · rw [mem_singleton.mp hp]
    exact hold

end Tasks

/-! ### The runs of a storage state manager -/

structure JournalConfined (directory : String) (journal : CefStateJournal) : Prop where
  journalPath : FilePath.IsChild directory journal.journalPath
  tmpPath : FilePath.IsChild directory (journal.journalPath ++ ".tmp")

/-- The tasks that a manager has posted and its journal stay in the sessions directory: other files of
the disk are as they were. -/
structure StorageConfined (home : String) (disk : Disk) (w : StorageWorld) : Prop where
  home_eq : w.directory.home = home
  sessionName : isValidSessionName w.manager.sessionName = true
  tasks : ∀ task callback, PostedTask.posted task callback ∈ w.tasks →
    task.Confined (getDefaultSessionsDirectory home)
  journal : ∀ journal, w.manager.journal = some journal →
    JournalConfined (getDefaultSessionsDirectory home) journal
  disk : ∀ path, ¬ FilePath.IsChild (getDefaultSessionsDirectory home) path →
    w.journalDisk path = disk path

namespace StorageWorld

structure Posts (w w' : StorageWorld) : Prop where
  directory_eq : w'.directory = w.directory
  sessionName_eq : w'.manager.sessionName = w.manager.sessionName
  journal_eq : w'.manager.journal = w.manager.journal
  disk_eq : w'.journalDisk = w.journalDisk
  tasks : ∀ task callback, PostedTask.posted task callback ∈ w'.tasks →
    PostedTask.posted task callback ∈ w.tasks ∨ task.Confined w.directory.path

variable {w w' v : StorageWorld} {home : String} {disk : Disk} {codec : JsonCodec}

lemma Posts.refl (w : StorageWorld) : Posts w w := ⟨rfl, rfl, rfl, rfl, fun _ _ h => .inl h⟩

lemma Posts.trans (h : Posts w v) (h' : Posts v w') : Posts w w' :=
  ⟨h'.directory_eq.trans h.directory_eq, h'.sessionName_eq.trans h.sessionName_eq,
    h'.journal_eq.trans h.journal_eq, h'.disk_eq.trans h.disk_eq, fun task callback hmem =>
      (h'.tasks task callback hmem).elim (h.tasks task callback)
        fun hconfined => .inr (h.directory_eq ▸ hconfined)⟩

lemma posts_runActionCallback (w : StorageWorld) (callback success : Bool) (error path : String) :
    Posts w (w.runActionCallback callback success error path) := by
  unfold runActionCallback
  split
  · exact ⟨rfl, rfl, rfl, rfl, fun _ _ h => .inl h⟩
  · exact .refl w

lemma posts_onReadComplete (w : StorageWorld) (callback : Bool) (result : StorageStateReadResult) :
    Posts w (w.onReadComplete callback result) := by
  unfold onReadComplete
  split
  · exact ⟨rfl, rfl, rfl, rfl, fun _ _ h => .inl h⟩
  · exact .refl w

lemma posts_onListComplete (w : StorageWorld) (callback : Bool) (result : StorageStateListResult)
    (fromCache : Bool) : Posts w (w.onListComplete callback result fromCache) := by
  unfold onListComplete
  split <;> split <;> exact ⟨rfl, rfl, rfl, rfl, fun _ _ h => .inl h⟩

lemma posts_onActionComplete (w : StorageWorld) (callback : Bool)
    (result : StorageStateActionResult) : Posts w (w.onActionComplete callback result) := by
  unfold onActionComplete
  refine Posts.trans ?_ (posts_runActionCallback ..)
  split <;> exact ⟨rfl, rfl, rfl, rfl, fun _ _ h => .inl h⟩

lemma posts_postTask (w : StorageWorld) {task : StorageTask} (callback : Bool)
    (h : task.Confined w.directory.path) : Posts w (w.postTask task callback) := by
  refine ⟨rfl, rfl, rfl, rfl, fun task' callback' hmem => ?_⟩
  rcases mem_append.mp hmem with hmem | hmem
  · exact .inl hmem
  · cases mem_singleton.mp hmem
    exact .inr h

lemma posts_execute (w : StorageWorld) (answer : SystemAnswer) {call : StorageCall}
    (hcall : ∀ path, call.request ≠ .save path) : Posts w (w.execute codec answer call) := by
  obtain ⟨request, callback⟩ := call
  cases request with
  | save path => exact absurd rfl (hcall path)
  | load path =>
    simp only [execute, loadInternal]
    split
    · exact posts_runActionCallback ..
    · split <;> exact posts_runActionCallback ..
  | list =>
    simp only [execute, listInternal]
    split
    · exact posts_onListComplete ..
    · exact posts_postTask w callback nofun
  | «show» path =>
    simp only [execute, showInternal]
    split
    · exact posts_onReadComplete ..
    · rename_i hne
      exact posts_postTask w callback (confined_show hne)
  | rename path newName =>
    simp only [execute, renameInternal]
    split
    · exact posts_runActionCallback ..
    · rename_i hne
      exact posts_postTask w callback (confined_rename hne)
  | clear path =>
    simp only [execute, clearInternal]
    split
    · exact posts_postTask w callback nofun
    · split
      · exact posts_runActionCallback ..
      · rename_i hne
        exact posts_postTask w callback (confined_clear hne)
  | cleanOlderThan days => exact posts_postTask w callback nofun

lemma confined_of_posts (h : StorageConfined home disk w) (hposts : Posts w w') :
    StorageConfined home disk w' where
  home_eq := by rw [hposts.directory_eq, h.home_eq]
  sessionName := by rw [hposts.sessionName_eq, h.sessionName]
  tasks task callback hmem := by
    rcases hposts.tasks task callback hmem with hmem | hconfined
    · exact h.tasks task callback hmem
    · rwa [SessionsDirectory.path, h.home_eq] at hconfined
  journal := by
    rw [hposts.journal_eq]
    exact h.journal
  disk := by
    rw [hposts.disk_eq]
    exact h.disk

/-! #### Saving -/

lemma journalPath_replayJournal {j j' : CefStateJournal} {contents : Option Bytes}
    (h : replayJournal codec j contents = some j') : j'.journalPath = j.journalPath := by
  unfold replayJournal at h
  split at h
  · cases h
  · rw [some.inj h]
  · rw [← some.inj h]

lemma disk_compact (j : JournalWorld) (answer : SystemAnswer) {path : String}
    (hjournal : path ≠ j.journal.journalPath) (htmp : path ≠ j.journal.journalPath ++ ".tmp") :
    (j.compact codec answer).2.disk path = j.disk path ∧
      (j.compact codec answer).2.journal.journalPath = j.journal.journalPath := by
  unfold JournalWorld.compact
  split
  · exact ⟨rfl, rfl⟩
  · unfold JournalWorld.writeCompactedSnapshot JournalWorld.tmpPath
    dsimp only
    split_ifs <;> simp [Function.update_of_ne, hjournal, htmp]

section

variable (h : StorageConfined home disk w)
include h

lemma confined_saveToJournal (outputPath : String) (callback : Bool) (answer : SystemAnswer) :
    StorageConfined home disk (w.saveToJournal codec outputPath callback answer) := by
  unfold saveToJournal
  split
  · exact confined_of_posts h (posts_runActionCallback ..)
  · rename_i journal hjournal
    have hpaths := h.journal journal hjournal
    split
    · exact confined_of_posts h (posts_runActionCallback ..)
    · dsimp only
      split
      · exact confined_of_posts h (posts_runActionCallback ..)
      · refine confined_of_posts ?_ (posts_runActionCallback ..)
        -- the world of the journal, compacted or not
        set j := if journal.compactionThreshold ≤ journal.pendingOps then
            ((⟨journal, w.journalDisk, []⟩ : JournalWorld).compact codec answer).2
          else ⟨journal, w.journalDisk, []⟩ with hj
        have hframe : ∀ path, ¬ FilePath.IsChild (getDefaultSessionsDirectory home) path →
            j.disk path = w.journalDisk path ∧ j.journal.journalPath = journal.journalPath := by
          intro path hpath
          rw [hj]
          split
          · exact disk_compact ⟨journal, w.journalDisk, []⟩ answer
              (fun heq => hpath (heq ▸ hpaths.journalPath)) fun heq => hpath (heq ▸ hpaths.tmpPath)
          · exact ⟨rfl, rfl⟩
        have hpath : j.journal.journalPath = journal.journalPath :=
          (hframe "" fun hempty => hempty.isName.1 rfl).2
        refine ⟨h.home_eq, h.sessionName, h.tasks, ?_, fun path hnot => ?_⟩
        · rintro journal' heq
          cases heq
          exact ⟨hpath ▸ hpaths.journalPath, hpath ▸ hpaths.tmpPath⟩
        · exact (hframe path hnot).1.trans (h.disk path hnot)

lemma confined_saveInternal (path : String) (callback : Bool) (answer : SystemAnswer) :
    StorageConfined home disk (w.saveInternal codec path callback answer) := by
  unfold saveInternal
  dsimp only
  split
  · refine confined_of_posts h (Posts.trans ?_ (posts_runActionCallback ..))
    exact ⟨rfl, rfl, rfl, rfl, fun _ _ hmem => .inl hmem⟩
  · generalize (if path = "" then w.manager.getDefaultStateFilePath w.directory.path
      else resolveManagedStatePath w.directory.path path) = outputPath
    split
    · exact confined_of_posts h (posts_runActionCallback ..)
    · exact confined_saveToJournal h ..

lemma confined_execute (answer : SystemAnswer)
    (call : StorageCall) : StorageConfined home disk (w.execute codec answer call) := by
  by_cases hsave : ∃ path, call.request = .save path
  · obtain ⟨path, hpath⟩ := hsave
    obtain ⟨request, callback⟩ := call
    obtain rfl : request = .save path := hpath
    exact confined_saveInternal h path callback answer
  · exact confined_of_posts h (posts_execute w answer fun path hpath => hsave ⟨path, hpath⟩)

/-! #### The other steps -/

end

lemma journalConfined_path {sessionName : String} (hsession : isValidSessionName sessionName = true)
    (hdirectory : getDefaultSessionsDirectory home ≠ "") (journal : CefStateJournal)
    (hpath : journal.journalPath = FilePath.append (getDefaultSessionsDirectory home)
      (safeSessionName sessionName ++ ".journal")) :
    JournalConfined (getDefaultSessionsDirectory home) journal := by
  have hdir := isDirectory_sessions hdirectory
  have hsafe : isValidSessionName (safeSessionName sessionName) = true := by
    unfold safeSessionName
    split
    · decide
    · exact hsession
  have htmp : FilePath.append (getDefaultSessionsDirectory home)
        (safeSessionName sessionName ++ ".journal") ++ ".tmp" =
      FilePath.append (getDefaultSessionsDirectory home)
        (safeSessionName sessionName ++ ".journal.tmp") := by
    rw [append_eq hdir (isName_append_extension hsafe (by decide)),
      append_eq hdir (isName_append_extension hsafe (by decide))]
    refine String.toList_injective ?_
    simp only [String.toList_append, String.toList_ofList, append_assoc, cons_append]
    rfl
  refine ⟨?_, ?_⟩
  · rw [hpath]
    exact isChild_append_extension (c := 'l') hdir hsafe (by decide) (by decide) (by decide)
  · rw [hpath, htmp]
    exact isChild_append_extension (c := 'p') hdir hsafe (by decide) (by decide) (by decide)

lemma confined_initializeAt (h : StorageConfined home disk w) (answer : SystemAnswer) :
    StorageConfined home disk (w.initializeAt codec answer) := by
  unfold StorageWorld.initializeAt
  split
  · exact h
  · split
    · exact confined_of_posts h ⟨rfl, rfl, rfl, rfl, fun _ _ hmem => .inl hmem⟩
    · rename_i hdirectory
      rw [SessionsDirectory.path, h.home_eq] at hdirectory
      have hdisk : ∀ (j : JournalWorld) (path : String),
          (j.initializeAt codec path answer).2.disk = j.disk ∧
            (j.journal.isOpen = false →
              (j.initializeAt codec path answer).2.journal.journalPath = path) := by
        intro j path
        unfold JournalWorld.initializeAt
        split
        · rename_i hopen
          exact ⟨rfl, fun hclosed => by rw [hopen] at hclosed; cases hclosed⟩
        · refine ⟨rfl, fun _ => ?_⟩
          dsimp only
          split
          · rfl
          · split
            · rename_i hreplay
              exact journalPath_replayJournal hreplay
            · rfl
      refine ⟨h.home_eq, h.sessionName, h.tasks, ?_, fun path hnot => ?_⟩
      · intro journal hjournal
        dsimp only at hjournal
        split at hjournal
        · cases hjournal
          refine journalConfined_path h.sessionName hdirectory _ ?_
          rw [(hdisk _ _).2 rfl, SessionsDirectory.path, h.home_eq]
        · cases hjournal
      · dsimp only
        rw [(hdisk _ _).1]
        exact h.disk path hnot

lemma home_deleteFile (d : SessionsDirectory) (name : String) (deleteOk : String → Bool) :
    (d.deleteFile name deleteOk).2.home = d.home := by
  unfold SessionsDirectory.deleteFile
  split <;> rfl

lemma home_clearLoop (path : String) (deleteOk : String → Bool) :
    ∀ (d : SessionsDirectory) (names : List String), (clearLoop path deleteOk d names).home = d.home
  | _, [] => rfl
  | d, name :: names => by
    unfold clearLoop
    split
    · exact home_clearLoop path deleteOk d names
    · rw [home_clearLoop path deleteOk _ names]
      exact home_deleteFile d name deleteOk

lemma home_cleanLoop (path : String) (deleteOk : String → Bool) (now maxAge : Int) :
    ∀ (s : SessionsDirectory × Nat × Nat) (files : List (FilePath.Name × StateFile)),
      (cleanLoop path deleteOk now maxAge s files).1.home = s.1.home
  | _, [] => rfl
  | s, (name, file) :: files => by
    unfold cleanLoop
    split
    · exact home_cleanLoop path deleteOk now maxAge s files
    · split
      · have hdelete := home_deleteFile s.1 name.val deleteOk
        split
        all_goals
          rename_i heq
          rw [heq] at hdelete
          rw [home_cleanLoop path deleteOk now maxAge _ files]
          exact hdelete
      · exact home_cleanLoop path deleteOk now maxAge _ files

lemma home_runBody (w : StorageWorld) (deleteOk : String → Bool) (moveOk : Bool)
    (task : StorageTask) : (w.runBody deleteOk moveOk task).2.home = w.directory.home := by
  cases task with
  | list => rfl
  | «show» path => rfl
  | rename oldPath newName =>
    simp only [runBody, renameState]
    split_ifs
    · rfl
    · rfl
    · split <;> rfl
    · split <;> rfl
    · rfl
  | clear path =>
    simp only [runBody, clearStates]
    split
    · rename_i path
      have hdelete := home_deleteFile w.directory (FilePath.baseName path) deleteOk
      split <;> simp_all
    · split_ifs
      · rfl
      · rfl
      · exact home_clearLoop _ _ _ _
  | clean days =>
    simp only [runBody, cleanStates]
    split_ifs
    · rfl
    · rfl
    · exact home_cleanLoop _ _ _ _ _ _

section

variable (h : StorageConfined home disk w)
include h

lemma confined_withDirectory {d : SessionsDirectory}
    (hhome : d.home = w.directory.home) : StorageConfined home disk (w.withDirectory d) := by
  refine ⟨hhome.trans h.home_eq, h.sessionName, fun task callback hmem => ?_, h.journal, h.disk⟩
  obtain ⟨posted, hposted, heq⟩ := mem_map.mp hmem
  cases posted with
  | posted task' callback' =>
    obtain ⟨rfl, rfl⟩ : task' = task ∧ callback' = callback := by simpa [PostedTask.recheck] using heq
    exact h.tasks _ _ hposted
  | finished reply callback' => cases heq
  | replied => cases heq

lemma confined_set {i : Nat} {posted : PostedTask}
    (hposted : ∀ task callback, posted ≠ .posted task callback) (gone : List String) :
    StorageConfined home disk { w with tasks := w.tasks.set i posted, gone := gone } := by
  refine ⟨h.home_eq, h.sessionName, fun task callback hmem => ?_, h.journal, h.disk⟩
  rcases mem_or_eq_of_mem_set hmem with hmem | heq
  · exact h.tasks task callback hmem
  · exact absurd heq.symm (hposted task callback)

lemma confined_step {a : StorageAction}
    (hw : w.step codec a = some w') : StorageConfined home disk w' := by
  cases a with
  | initializeAt answer =>
    cases hw
    exact confined_initializeAt h answer
  | runInitCallback answer =>
    simp only [StorageWorld.step, StorageWorld.runInitCallback] at hw
    split at hw
    · rename_i call calls _ _
      cases hw
      have hpopped : StorageConfined home disk
          { w with manager := { w.manager with initCallbacks := calls } } :=
        confined_of_posts h ⟨rfl, rfl, rfl, rfl, fun _ _ hmem => .inl hmem⟩
      exact confined_execute hpopped answer call
    · cases hw
  | call call answer =>
    cases hw
    unfold storeOrTriggerInitCallback
    split
    · exact confined_execute h answer call
    · exact confined_of_posts h ⟨rfl, rfl, rfl, rfl, fun _ _ hmem => .inl hmem⟩
  | markDirty origin =>
    cases hw
    exact confined_of_posts h ⟨rfl, rfl, rfl, rfl, fun _ _ hmem => .inl hmem⟩
  | setSessionName sessionName =>
    cases hw
    unfold StorageWorld.setSessionName
    split
    · exact h
    · rename_i hvalid
      exact ⟨h.home_eq, by simpa using hvalid, h.tasks, h.journal, h.disk⟩
  | runTask i deleteOk moveOk =>
    simp only [StorageWorld.step, runTask] at hw
    split at hw
    · cases hw
      refine confined_set (confined_withDirectory h (home_runBody w deleteOk moveOk _))
        (fun task callback heq => ?_) _
      cases heq
    · cases hw
  | reply i =>
    simp only [StorageWorld.step, StorageWorld.reply] at hw
    split at hw
    · rename_i reply callback _
      have hset : StorageConfined home disk
          { w with tasks := w.tasks.set i .replied, gone := reply.completed ++ w.gone } := by
        refine confined_set h (fun task callback heq => ?_) _
        cases heq
      split at hw
      · cases hw
        exact confined_of_posts hset (posts_onListComplete ..)
      · cases hw
        exact confined_of_posts hset (posts_onActionComplete ..)
      · cases hw
        exact confined_of_posts hset (posts_onReadComplete ..)
    · cases hw
  | writeFile name file =>
    cases hw
    exact confined_withDirectory h rfl
  | wait microseconds =>
    cases hw
    exact confined_of_posts h ⟨rfl, rfl, rfl, rfl, fun _ _ hmem => .inl hmem⟩

end

/-- **The runs of a manager** stay in the sessions directory. -/
theorem confined_run {actions : List StorageAction} {d : SessionsDirectory} {now : Int}
    (h : actions.foldlM (step codec) (start d disk now) = some w) : StorageConfined d.home disk w := by
  refine Transition.run_invariant (fun _ _ _ hI hstep => confined_step hI hstep) ?_ h
  exact ⟨rfl, rfl, nofun, nofun, fun _ _ => rfl⟩

end StorageWorld

/-! ### The auth vault -/

namespace AuthVault

variable {home name : String}

lemma isDirectory_authDirectory (h : home ≠ "") :
    FilePath.IsDirectory (getDefaultAuthDirectory home) := by
  have hroot : FilePath.IsDirectory (getAgentBrowserDirectory home) := by
    unfold getAgentBrowserDirectory
    rw [if_neg h]
    exact isDirectory_append _ (by decide) (by decide)
  unfold getDefaultAuthDirectory
  rw [if_neg hroot.1]
  exact isDirectory_append _ (by decide) (by decide)

theorem isChild_buildProfilePath (h : home ≠ "") (hname : isValidProfileName name = true) :
    FilePath.IsChild (getDefaultAuthDirectory home)
      (buildProfilePath (getDefaultAuthDirectory home) name) := by
  have hvalid : isValidSessionName name = true := (Bool.and_eq_true _ _ ▸ hname).2
  exact isChild_append_extension (c := 'n') (isDirectory_authDirectory h) hvalid (by decide)
    (by decide) (by decide)

/-- The paths of the vault that no argument has an influence on: its directory, the key file, and the
directory of this. -/
def IsFixedPath (home path : String) : Prop :=
  path = getDefaultAuthDirectory home ∨ path = getDefaultEncryptionKeyPath home ∨
    path = FilePath.dirName (getDefaultEncryptionKeyPath home)

/-- An operation that stays in the vault directory, or is about a fixed path. -/
def OpConfined (home : String) (op : FileOp) : Prop :=
  ∀ path, op.touched = some path →
    FilePath.IsChild (getDefaultAuthDirectory home) path ∨ IsFixedPath home path

variable {path : String}

lemma opConfined_of_fixed {op : FileOp} (hop : op.touched = some path)
    (hpath : IsFixedPath home path) : OpConfined home op := fun _ h =>
  .inr (some.inj (hop.symm.trans h) ▸ hpath)

lemma opConfined_of_isChild {op : FileOp} (hop : op.touched = some path)
    (hpath : FilePath.IsChild (getDefaultAuthDirectory home) path) : OpConfined home op := fun _ h =>
  .inl (some.inj (hop.symm.trans h) ▸ hpath)

lemma createEncryptionKey_confined (home : String) :
    (createEncryptionKey (getDefaultEncryptionKeyPath home)).All (OpConfined home) := by
  unfold createEncryptionKey
  dsimp only
  split
  · trivial
  · refine ⟨opConfined_of_fixed rfl (.inr (.inr rfl)), fun created => ?_⟩
    cases created with
    | false => trivial
    | true =>
      exact ⟨nofun, fun key => ⟨opConfined_of_fixed rfl (.inr (.inl rfl)), fun _ => trivial⟩⟩

lemma ensureEncryptionKey_confined (home : String) :
    (ensureEncryptionKey (getDefaultEncryptionKeyPath home)).All (OpConfined home) :=
  all_ensureEncryptionKey (fun _ => nofun) (opConfined_of_fixed rfl (.inr (.inl rfl)))
    (createEncryptionKey_confined home)

variable (v : VaultPrimitives)

lemma saveWithKey_confined (h : FilePath.IsChild (getDefaultAuthDirectory home)
      (buildProfilePath (getDefaultAuthDirectory home) name)) (profile : JsonDict)
    (key : Option Bytes) :
    (saveWithKey v (getDefaultAuthDirectory home) name profile key).All (OpConfined home) := by
  unfold saveWithKey
  split
  · trivial
  · split
    · trivial
    · refine ⟨nofun, fun nonce => ?_⟩
      show All _ (writeProfile _ _)
      unfold writeProfile
      split
      · trivial
      · exact ⟨opConfined_of_isChild rfl h, fun _ => trivial⟩

lemma saveProfile_confined (h : home ≠ "") (profile : JsonDict) :
    (saveProfileOnBlockingThread v (getDefaultAuthDirectory home)
      (getDefaultEncryptionKeyPath home) profile).All (OpConfined home) := by
  unfold saveProfileOnBlockingThread
  split
  · trivial
  · split_ifs with hvalid
    · trivial
    · trivial
    · refine ⟨opConfined_of_fixed rfl (.inl rfl), fun created => ?_⟩
      cases created with
      | false => trivial
      | true =>
        show All _ (ensureEncryptionKey _ >>= _)
        refine All.bind (fun key => ?_) (ensureEncryptionKey_confined home)
        exact saveWithKey_confined v (isChild_buildProfilePath h (by simpa using hvalid)) profile key

lemma readProfileDict_confined (h : FilePath.IsChild (getDefaultAuthDirectory home) path) :
    (readProfileDict v path (getDefaultEncryptionKeyPath home)).All (OpConfined home) := by
  refine ⟨opConfined_of_isChild rfl h, fun input => ?_⟩
  cases input with
  | none => trivial
  | some input =>
    show All _ (profileFromInput v _ input)
    unfold profileFromInput
    split
    · trivial
    · split
      · refine All.bind (fun key => ?_) (ensureEncryptionKey_confined home)
        cases key <;> trivial
      · trivial

lemma readProfile_confined (h : home ≠ "") (name : String) :
    (readProfileOnBlockingThread v (getDefaultAuthDirectory home)
      (getDefaultEncryptionKeyPath home) name).All (OpConfined home) := by
  unfold readProfileOnBlockingThread
  split_ifs with hvalid
  · trivial
  · have hchild : FilePath.IsChild (getDefaultAuthDirectory home)
        (buildProfilePath (getDefaultAuthDirectory home) name) :=
      isChild_buildProfilePath h (by simpa using hvalid)
    refine All.bind (fun profile => ?_) (readProfileDict_confined v hchild)
    trivial

lemma deleteProfile_confined (h : home ≠ "") (name : String) :
    (deleteProfileOnBlockingThread (getDefaultAuthDirectory home) name).All (OpConfined home) := by
  unfold deleteProfileOnBlockingThread
  split_ifs with hvalid
  · trivial
  · exact ⟨opConfined_of_isChild rfl (isChild_buildProfilePath h (by simpa using hvalid)),
      fun _ => trivial⟩

def VaultCall.HasArgument : VaultCall → Prop
  | .visitProfiles => False
  | _ => True

theorem body_confined (h : home ≠ "") {call : VaultCall} (hcall : call.HasArgument) :
    (call.body v home).All (OpConfined home) := by
  cases call with
  | saveProfile profile =>
    refine All.bind (fun result => ?_) (saveProfile_confined v h profile)
    trivial
  | readProfile name =>
    refine All.bind (fun result => ?_) (readProfile_confined v h name)
    trivial
  | deleteProfile name =>
    refine All.bind (fun result => ?_) (deleteProfile_confined h name)
    trivial
  | visitProfiles => cases hcall

end AuthVault

/-! ### Both together -/

/-- **No argument makes the two touch a file outside of their directories**: paths that are resolved
are those of state files, profiles have paths of their own in the vault directory, and neither the
tasks nor the journal of a manager nor the calls of a vault leave the directories. -/
structure PathsConfined (home : String) : Prop where
  statePath : ∀ path, resolveManagedStatePath (getDefaultSessionsDirectory home) path ≠ "" →
    IsStatePath (getDefaultSessionsDirectory home)
      (resolveManagedStatePath (getDefaultSessionsDirectory home) path)
  profilePath : ∀ name, AuthVault.isValidProfileName name = true →
    FilePath.IsChild (AuthVault.getDefaultAuthDirectory home)
      (AuthVault.buildProfilePath (AuthVault.getDefaultAuthDirectory home) name)
  profilePath_injective : ∀ name name',
    AuthVault.buildProfilePath (AuthVault.getDefaultAuthDirectory home) name =
      AuthVault.buildProfilePath (AuthVault.getDefaultAuthDirectory home) name' → name = name'
  storage : ∀ (codec : JsonCodec) (d : SessionsDirectory) (disk : Disk) (now : Int)
    (actions : List StorageAction) (w : StorageWorld), d.home = home →
    actions.foldlM (StorageWorld.step codec) (StorageWorld.start d disk now) = some w →
    StorageConfined home disk w
  vault : ∀ (v : AuthVault.VaultPrimitives) (call : AuthVault.VaultCall), call.HasArgument →
    (call.body v home).All (AuthVault.OpConfined home)

/-- **When paths are confined**: exactly if there is a home directory. -/
theorem pathsConfined_iff (home : String) : PathsConfined home ↔ home ≠ "" := by
  constructor
  · rintro h rfl
    exact (h.profilePath "a" (by decide)).ne rfl
  · intro hhome
    refine ⟨fun path h => (isStatePath_resolve h).1, fun name => AuthVault.isChild_buildProfilePath hhome,
      fun name name' => AuthVault.buildProfilePath_injective, ?_,
      fun v call => AuthVault.body_confined v hhome⟩
    rintro codec d disk now actions w rfl hrun
    exact StorageWorld.confined_run hrun

def currentDirectoryFile : FileWorld where
  files path := if path = "package.json" then some [1] else none
  directories := []
  environment _ := none
  answers _ := {}

/-- Without a home directory, deleting a profile deletes a file of the current directory. -/
theorem delete_outside_vault :
    AuthVault.isValidProfileName "package" = true ∧
      AuthVault.buildProfilePath (AuthVault.getDefaultAuthDirectory "") "package" = "package.json" ∧
      ¬ FilePath.IsChild (AuthVault.getDefaultAuthDirectory "") "package.json" ∧
      currentDirectoryFile.files "package.json" = some [1] ∧
      (exec FileOp.run (AuthVault.deleteProfileOnBlockingThread
        (AuthVault.getDefaultAuthDirectory "") "package") currentDirectoryFile).2.files
          "package.json" = none := by
  refine ⟨by decide, by decide, fun h => h.ne rfl, rfl, ?_⟩
  decide

end CefCore.Browser
