import CefCore.Browser.SessionPool
import CefCore.Browser.StorageStateManager

/-!
# Pooled contexts and saved sessions

Before `CefSessionPool::Acquire` hands out a pooled context, `ResetContextState` clears the storage
state of the context with an empty path. To the storage state manager an empty path stands for all
state files of the default sessions directory, and this directory is the same for all contexts.

## Main results

* `isolated_iff`: when an acquired context leaves the states of other sessions alone.

## Implementation notes

Cookies, the HTTP cache, connections, certificate exceptions, credentials and scheme handlers are
reset without touching the directory, and are left out.
-/

namespace CefCore.Browser

open List Option SessionsDirectory JsonCodec

/-! ### Clearing the directory -/

namespace SessionsDirectory

variable {d : SessionsDirectory}

lemma lookup_deleteFile (d : SessionsDirectory) (name name' : String) (deleteOk : String → Bool) :
    (d.deleteFile name deleteOk).2.lookup name' =
      if name' = name ∧ deleteOk name = true then none else d.lookup name' := by
  unfold deleteFile
  cases hdelete : deleteOk name with
  | true => simp [lookup_remove]
  | false => simp

lemma mem_names_of_lookup {name : String} (h : d.lookup name ≠ none) : name ∈ d.names := by
  obtain ⟨file, hfile⟩ := ne_none_iff_exists'.mp h
  obtain ⟨e, he, -⟩ := map_eq_some_iff.mp hfile
  have hname : e.1.val = name := by simpa using find?_some he
  exact hname ▸ mem_map_of_mem (mem_of_find?_eq_some he)

end SessionsDirectory

lemma lookup_clearLoop (path : String) (deleteOk : String → Bool) (name : String) :
    ∀ (names : List String) (d : SessionsDirectory), (clearLoop path deleteOk d names).lookup name =
        if name ∈ names ∧ isStateFile (FilePath.append path name) = true ∧ deleteOk name = true then
          none
        else d.lookup name
  | [], d => by simp [clearLoop]
  | name' :: names, d => by
    unfold clearLoop
    have ih := lookup_clearLoop path deleteOk name names
    by_cases hstate : isStateFile (FilePath.append path name') = true
    · rw [hstate, Bool.not_true, if_neg Bool.false_ne_true, ih, lookup_deleteFile]
      by_cases heq : name = name'
      · subst heq
        cases hdelete : deleteOk name <;> simp [hstate]
      · simp [heq]
    · rw [Bool.not_eq_true] at hstate
      rw [hstate, Bool.not_false, if_pos rfl, ih]
      by_cases heq : name = name'
      · subst heq
        simp [hstate]
      · simp [heq]

theorem lookup_clearStates (d : SessionsDirectory) (deleteOk : String → Bool) (name : String) :
    (clearStates d none deleteOk).2.lookup name =
      if d.path ≠ "" ∧ d.present = true ∧ isStateFile (FilePath.append d.path name) = true ∧
          deleteOk name = true then none
      else d.lookup name := by
  unfold clearStates
  by_cases hpath : d.path = ""
  · simp [hpath]
  · cases hpresent : d.present with
    | false => simp [hpath]
    | true =>
      simp only [hpath, if_false, Bool.not_true, Bool.false_eq_true, lookup_clearLoop, ne_eq,
        not_false_eq_true, true_and]
      by_cases hname : name ∈ d.names
      · simp [hname]
      · have hnone : d.lookup name = none := by
          by_contra hsome
          exact hname (mem_names_of_lookup hsome)
        simp [hnone]

lemma isStateFile_append {directory name : String} (hdirectory : FilePath.IsDirectory directory)
    (hname : FilePath.IsName name) :
    isStateFile (FilePath.append directory name) = isStateFile name := by
  unfold isStateFile
  rw [FilePath.baseName_append hdirectory hname, FilePath.baseName_of_isName hname]

/-! ### Handing out a pooled context -/

/-- The pool, and the storage state of its contexts. -/
structure SessionSystem where
  pool : PoolWorld
  managers : RequestContext → CefStorageStateManager
  directory : SessionsDirectory
  journalDisk : Disk
  now : Int

def CefStorageStateManager.sessionFile (m : CefStorageStateManager) : String :=
  safeSessionName m.sessionName ++ jsonExtension

/-- **Isolation**: the state files other than one are the same before and after. -/
def Isolated (own : String) (before after : SessionsDirectory) : Prop :=
  ∀ name, FilePath.IsName name → isStateFile name = true → name ≠ own →
    after.lookup name = before.lookup name

namespace SessionSystem

variable {codec : JsonCodec} {s : SessionSystem}

def storage (s : SessionSystem) (context : RequestContext) : StorageWorld :=
  ⟨s.managers context, s.directory, s.journalDisk, s.now, [], [], []⟩

/-- `ResetContextState`, as far as the storage state goes: the manager of the context is initialized
and cleared with an empty path, and the task that is posted runs. -/
def resetContextState (codec : JsonCodec) (s : SessionSystem) (context : RequestContext)
    (answer : SystemAnswer) (deleteOk : String → Bool) : SessionSystem :=
  let w := (s.storage context).initializeAt codec answer
  let w := w.storeOrTriggerInitCallback codec ⟨.clear "", false⟩ answer
  let w := (w.runTask 0 deleteOk true).getD w
  { s with
    managers := Function.update s.managers context w.manager
    directory := w.directory
    journalDisk := w.journalDisk }

/-- `Acquire`, up to the creation of a context on demand. -/
def acquire (codec : JsonCodec) (s : SessionSystem) (answer : SystemAnswer)
    (deleteOk : String → Bool) : Acquired × SessionSystem :=
  match s.pool.acquire s.now with
  | (.pooled context, pool) =>
    (.pooled context, { s with pool := pool }.resetContextState codec context answer deleteOk)
  | (acquired, pool) => (acquired, { s with pool := pool })

lemma initializeAt_spec (codec : JsonCodec) (w : StorageWorld) (answer : SystemAnswer) :
    (w.initializeAt codec answer).directory = w.directory ∧
      (w.initializeAt codec answer).tasks = w.tasks ∧
      (w.initializeAt codec answer).manager.initialized = true := by
  unfold StorageWorld.initializeAt
  split
  · rename_i hinitialized
    exact ⟨rfl, rfl, hinitialized⟩
  · split <;> exact ⟨rfl, rfl, rfl⟩

lemma directory_resetContextState (s : SessionSystem) (context : RequestContext)
    (answer : SystemAnswer) (deleteOk : String → Bool) :
    (s.resetContextState codec context answer deleteOk).directory =
      (clearStates s.directory none deleteOk).2 := by
  obtain ⟨hdirectory, htasks, hinitialized⟩ :=
    initializeAt_spec codec (s.storage context) answer
  unfold resetContextState
  dsimp only
  generalize (s.storage context).initializeAt codec answer = w at hdirectory htasks hinitialized ⊢
  have hposted : (w.storeOrTriggerInitCallback codec ⟨.clear "", false⟩ answer) =
      { w with tasks := [.posted (.clear none) false] } := by
    simp only [StorageWorld.storeOrTriggerInitCallback, hinitialized, if_true, StorageWorld.execute,
      StorageWorld.clearInternal, StorageWorld.postTask, htasks]
    rfl
  rw [hposted]
  simp only [StorageWorld.runTask, getElem?_cons_zero, StorageWorld.runBody, getD_some,
    StorageWorld.withDirectory, hdirectory]
  rfl

/-- **Isolation of sessions**: handing out a pooled context leaves the state files of other sessions
alone if and only if there is no sessions directory, or none of these files can be deleted.

**Proof sketch.** Resetting the context deletes every state file of the directory that can be
deleted, whichever session it belongs to. -/
theorem isolated_iff (codec : JsonCodec) (s : SessionSystem) (context : RequestContext)
    (answer : SystemAnswer) (deleteOk : String → Bool)
    (h : (s.pool.acquire s.now).1 = .pooled context) :
    (s.acquire codec answer deleteOk).1 = .pooled context ∧
      (Isolated (s.managers context).sessionFile s.directory
          (s.acquire codec answer deleteOk).2.directory ↔
        s.directory.path = "" ∨ s.directory.present = false ∨
          ∀ e ∈ s.directory.files, isStateFile e.1.val = true →
            e.1.val ≠ (s.managers context).sessionFile → deleteOk e.1.val = false) := by
  have hacquire : s.acquire codec answer deleteOk = (.pooled context,
      { s with pool := (s.pool.acquire s.now).2 }.resetContextState codec context answer
        deleteOk) := by
    unfold acquire
    generalize s.pool.acquire s.now = acquired at h ⊢
    obtain ⟨acquired, pool⟩ := acquired
    obtain rfl := h
    rfl
  rw [hacquire]
  refine ⟨rfl, ?_⟩
  rw [directory_resetContextState]
  unfold Isolated
  simp only [lookup_clearStates]
  constructor
  · intro hisolated
    by_cases hpath : s.directory.path = ""
    · exact .inl hpath
    · cases hpresent : s.directory.present with
      | false => exact .inr (.inl rfl)
      | true =>
        refine .inr (.inr fun e he hstate hother => ?_)
        by_contra hdelete
        have hstate' : isStateFile (FilePath.append s.directory.path e.1.val) = true := by
          rw [isStateFile_append (isDirectory_path hpath) e.1.property]
          exact hstate
        have hsame := hisolated e.1.val e.1.property hstate hother
        rw [if_pos ⟨hpath, hpresent, hstate', by simpa using hdelete⟩] at hsame
        have hnone := find?_eq_none.mp (map_eq_none_iff.mp hsame.symm) e he
        exact hnone (by simp)
  · intro hcondition name hname hstate hother
    split
    · rename_i hdeleted
      obtain ⟨hpath, hpresent, -, hdelete⟩ := hdeleted
      rcases hcondition with hempty | habsent | hkept
      · exact absurd hempty hpath
      · exact absurd (hpresent.symm.trans habsent) (by decide)
      · by_contra hsome
        obtain ⟨file, hfile⟩ := ne_none_iff_exists'.mp (Ne.symm hsome)
        obtain ⟨e, he, -⟩ := map_eq_some_iff.mp hfile
        have hval : e.1.val = name := by simpa using find?_some he
        have hfalse := hkept e (mem_of_find?_eq_some he) (hval ▸ hstate) (hval ▸ hother)
        rw [hval, hdelete] at hfalse
        cases hfalse
    · rfl

/-- A system whose pool has one context, with the state files of some sessions. -/
def pooledSystem (files : List (FilePath.Name × StateFile)) : SessionSystem where
  pool := ⟨⟨{ poolSize := 1 }, false, 1, [⟨0, 0, 0, ""⟩], 0⟩, [""], 0, []⟩
  managers := fun _ => .new
  directory := ⟨"/home/u", true, files⟩
  journalDisk := fun _ => none
  now := 0

def twoSessions : SessionSystem :=
  pooledSystem [(⟨"work.json", by decide⟩, ⟨[], 0⟩), (⟨"default.json", by decide⟩, ⟨[], 0⟩)]

/-- The file of another session stays when it cannot be deleted, and the context's own one goes. -/
theorem isolated_iff_own :
    Isolated "default.json" twoSessions.directory
      (twoSessions.acquire (.ofTable [] tableLaws_nil) {} (· == "default.json")).2.directory ∧
    (twoSessions.acquire (.ofTable [] tableLaws_nil) {}
      (· == "default.json")).2.directory.names = ["work.json"] :=
  ⟨(isolated_iff (.ofTable [] tableLaws_nil) twoSessions 0 {} (· == "default.json")
    rfl).2.mpr (.inr (.inr (by decide +kernel))), by decide +kernel⟩

/-- The session saved in `work.json` is lost when another context is handed out. -/
theorem acquire_not_isolated : ¬ ∀ (codec : JsonCodec) (s : SessionSystem)
    (context : RequestContext) (answer : SystemAnswer) (deleteOk : String → Bool),
      (s.pool.acquire s.now).1 = .pooled context →
        Isolated (s.managers context).sessionFile s.directory
          (s.acquire codec answer deleteOk).2.directory := by
  intro h
  have hsame := h (.ofTable [] tableLaws_nil)
    (pooledSystem [(⟨"work.json", by decide⟩, ⟨[], 0⟩)]) 0 {} (fun _ => true) rfl "work.json"
    (by decide) (by decide +kernel) (by decide +kernel)
  exact absurd hsame (by decide +kernel)

end SessionSystem

end CefCore.Browser
