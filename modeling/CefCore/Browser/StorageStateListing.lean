import CefCore.Browser.StorageStateManager

/-!
# The cached listing of the storage state manager

A listing is kept for five seconds. The time is counted from the last answer, also from one out of
the cache, and not from the enumeration of the directory. Renames and clears make the cached listing
invalid when they complete; cleaning does not, and neither does anything to a listing that is on its
way.

## Main results

* `lists_fresh`: how old a listing may be.
-/

namespace CefCore.Browser

open List Transition

lemma lookup_ne_none_of_mem_listStates {d : SessionsDirectory} {now : Int} {e : StateEntry}
    (he : e ∈ (listStates d now).entries) : d.lookup e.filename ≠ none := by
  unfold listStates at he
  split at he
  · cases he
  · rename_i hpath
    split at he
    · cases he
    · obtain ⟨file, hfile, rfl⟩ := mem_map.mp he
      have hmem := (mem_filter.mp hfile).1
      have hname : (makeEntryDict (FilePath.append d.path file.1.val) file.2.contents.length
          file.2.modified).filename = file.1.val := by
        simp only [makeEntryDict]
        rw [FilePath.baseName_append (SessionsDirectory.isDirectory_path hpath) file.1.property]
      rw [hname]
      exact fun hnone => SessionsDirectory.lookup_eq_none_iff.mp hnone (mem_map_of_mem hmem)

lemma mem_stillGone {d : SessionsDirectory} {names : List String} {name : String} :
    name ∈ stillGone d names ↔ name ∈ names ∧ d.lookup name = none := by
  simp [stillGone]

def StorageReply.removed : StorageReply → List String
  | .list _ => []
  | .action _ removed => removed
  | .read _ removed => removed

lemma StorageReply.completed_subset (reply : StorageReply) : reply.completed ⊆ reply.removed := by
  intro name hname
  cases reply with
  | list result => exact hname
  | action result removed =>
    simp only [StorageReply.completed] at hname
    split at hname
    · exact hname
    · exact nomatch hname
  | read result removed =>
    simp only [StorageReply.completed] at hname
    split at hname
    · exact hname
    · exact nomatch hname

/-- A list and a set of names have nothing in common. -/
def Unlisted (entries : List StateEntry) (names : List String) : Prop :=
  ∀ e ∈ entries, e.filename ∉ names

instance (entries : List StateEntry) (names : List String) : Decidable (Unlisted entries names) :=
  inferInstanceAs (Decidable (∀ e ∈ entries, e.filename ∉ names))

/-- The cached listing stays when the task completes. -/
def StorageReply.KeepsCache : StorageReply → Bool
  | .read _ _ => true
  | _ => false

def PostedTask.entries : PostedTask → List StateEntry
  | .finished (.list result) _ => result.entries
  | _ => []

lemma Unlisted.append {entries : List StateEntry} {names names' : List String}
    (h : Unlisted entries names) (h' : Unlisted entries names') :
    Unlisted entries (names ++ names') := by
  intro e he hmem
  rcases mem_append.mp hmem with hmem | hmem
  · exact h e he hmem
  · exact h' e he hmem

namespace StorageWorld

variable {codec : JsonCodec} {w w' : StorageWorld}

/-! ### Fresh answers -/

section

variable (w : StorageWorld)

/-- **Timely answers**: a listing out of the cache stems from an enumeration that was performed at
most five seconds before. -/
def TimelyLists : Prop :=
  ∀ result now gone, StorageEvent.listed result now true gone ∈ w.log →
    now - result.performedAt ≤ cacheLifetime

/-- **Current answers**: no listing has a file that a completed rename, clear or cleaning has removed
and that has not come back. -/
def CurrentLists : Prop :=
  ∀ result now fromCache gone, StorageEvent.listed result now fromCache gone ∈ w.log →
    Unlisted result.entries gone

/-- If the cached listing can be used, then the directory was enumerated at most five seconds
before. -/
def CacheTimely : Prop :=
  w.manager.cacheUsable w.directory.path w.now = true →
    w.now - w.manager.cachedDirectoryState.performedAt ≤ cacheLifetime

def pendingEntries : List StateEntry := w.tasks.flatMap PostedTask.entries

/-- When a listing is asked for, the cached one can be used only in the five seconds behind its
enumeration. -/
def ListsInTime : StorageAction → Prop
  | .call ⟨.list, true⟩ _ => w.manager.initialized = true → w.CacheTimely
  | .runInitCallback _ =>
    match w.manager.initialized, w.manager.initCallbacks with
    | true, ⟨.list, true⟩ :: _ => w.CacheTimely
    | _, _ => True
  | _ => True

/-- When an operation completes that has removed files, they are in no listing that is on its way;
and if it is a cleaning, then they are not in a valid cached one. -/
def RemovalsInOrder : StorageAction → Prop
  | .reply i =>
    match w.tasks[i]? with
    | some (.finished reply _) =>
      Unlisted w.pendingEntries reply.completed ∧
        (reply.KeepsCache = true → w.manager.cachedDirectoryState.valid = true →
          Unlisted w.manager.cachedDirectoryState.entries reply.completed)
    | _ => True
  | _ => True

end

instance (w : StorageWorld) : (a : StorageAction) → Decidable (w.RemovalsInOrder a)
  | .reply _ => by
    simp only [RemovalsInOrder]
    split <;> infer_instance
  | .initializeAt _ => isTrue trivial
  | .runInitCallback _ => isTrue trivial
  | .call _ _ => isTrue trivial
  | .markDirty _ => isTrue trivial
  | .setSessionName _ => isTrue trivial
  | .runTask _ _ _ => isTrue trivial
  | .writeFile _ _ => isTrue trivial
  | .wait _ => isTrue trivial

/-- What is kept by removals in order: beside the answers, also the listings on their way and the
cached one are current, and the files that have been removed are not there. -/
structure Listed (w : StorageWorld) : Prop where
  current : w.CurrentLists
  pending : Unlisted w.pendingEntries w.gone
  cached : w.manager.cachedDirectoryState.valid = true →
    Unlisted w.manager.cachedDirectoryState.entries w.gone
  gone : ∀ name ∈ w.gone, w.directory.lookup name = none
  removed : ∀ reply callback, PostedTask.finished reply callback ∈ w.tasks →
    ∀ name ∈ reply.removed, w.directory.lookup name = none

structure Silent (w w' : StorageWorld) : Prop where
  directory_eq : w'.directory = w.directory
  gone_eq : w'.gone = w.gone
  cache_eq : w'.manager.cachedDirectoryState = w.manager.cachedDirectoryState
  finished : ∀ reply callback, PostedTask.finished reply callback ∈ w'.tasks →
    PostedTask.finished reply callback ∈ w.tasks
  listed : ∀ result now fromCache gone, StorageEvent.listed result now fromCache gone ∈ w'.log →
    StorageEvent.listed result now fromCache gone ∈ w.log

lemma mem_pendingEntries {e : StateEntry} : e ∈ w.pendingEntries ↔
    ∃ result callback, PostedTask.finished (.list result) callback ∈ w.tasks ∧ e ∈ result.entries := by
  constructor
  · intro he
    obtain ⟨task, htask, he⟩ := mem_flatMap.mp he
    cases task with
    | posted task callback => cases he
    | finished reply callback =>
      cases reply with
      | list result => exact ⟨result, callback, htask, he⟩
      | action result removed => cases he
      | read result removed => cases he
    | replied => cases he
  · rintro ⟨result, callback, htask, he⟩
    exact mem_flatMap.mpr ⟨_, htask, he⟩

lemma Silent.refl (w : StorageWorld) : Silent w w :=
  ⟨rfl, rfl, rfl, fun _ _ h => h, fun _ _ _ _ h => h⟩

lemma Silent.trans {v : StorageWorld} (h : Silent w v) (h' : Silent v w') : Silent w w' :=
  ⟨h'.directory_eq.trans h.directory_eq, h'.gone_eq.trans h.gone_eq, h'.cache_eq.trans h.cache_eq,
    fun reply callback hmem => h.finished reply callback (h'.finished reply callback hmem),
    fun result now fromCache gone hmem =>
      h.listed result now fromCache gone (h'.listed result now fromCache gone hmem)⟩

lemma Listed.of_silent (h : w.Listed) (hsilent : Silent w w') : w'.Listed := by
  refine ⟨fun result now fromCache gone hmem =>
      h.current result now fromCache gone (hsilent.listed _ _ _ _ hmem),
    fun e he => ?_, fun hvalid => ?_, fun name hname => ?_,
    fun reply callback hmem name hname => ?_⟩
  · rw [hsilent.gone_eq]
    obtain ⟨result, callback, hmem, he⟩ := mem_pendingEntries.mp he
    exact h.pending e (mem_pendingEntries.mpr ⟨result, callback, hsilent.finished _ _ hmem, he⟩)
  · rw [hsilent.cache_eq] at hvalid ⊢
    rw [hsilent.gone_eq]
    exact h.cached hvalid
  · rw [hsilent.gone_eq] at hname
    rw [hsilent.directory_eq]
    exact h.gone name hname
  · rw [hsilent.directory_eq]
    exact h.removed reply callback (hsilent.finished _ _ hmem) name hname

/-! ### Calls -/

section

variable (w : StorageWorld)

lemma silent_postTask (task : StorageTask) (callback : Bool) :
    Silent w (w.postTask task callback) := by
  refine ⟨rfl, rfl, rfl, fun reply callback' hmem => ?_, fun _ _ _ _ h => h⟩
  rcases mem_append.mp hmem with hmem | hmem
  · exact hmem
  · cases mem_singleton.mp hmem

lemma silent_runActionCallback (callback success : Bool) (error path : String) :
    Silent w (w.runActionCallback callback success error path) := by
  unfold runActionCallback
  split
  · refine ⟨rfl, rfl, rfl, fun _ _ h => h, fun result now fromCache gone hmem => ?_⟩
    rcases mem_cons.mp hmem with heq | hmem
    · cases heq
    · exact hmem
  · exact .refl w

lemma silent_onReadComplete (callback : Bool) (result : StorageStateReadResult) :
    Silent w (w.onReadComplete callback result) := by
  unfold onReadComplete
  split
  · refine ⟨rfl, rfl, rfl, fun _ _ h => h, fun result' now fromCache gone hmem => ?_⟩
    rcases mem_cons.mp hmem with heq | hmem
    · cases heq
    · exact hmem
  · exact .refl w

lemma silent_saveToJournal (outputPath : String) (callback : Bool)
    (answer : SystemAnswer) : Silent w (w.saveToJournal codec outputPath callback answer) := by
  unfold saveToJournal
  split
  · exact silent_runActionCallback ..
  · split
    · exact silent_runActionCallback ..
    · dsimp only
      split
      · exact silent_runActionCallback ..
      · refine Silent.trans ?_ (silent_runActionCallback ..)
        refine ⟨rfl, rfl, rfl, fun _ _ h => h, fun result now fromCache gone hmem => ?_⟩
        rcases mem_cons.mp hmem with heq | hmem
        · cases heq
        · exact hmem

lemma silent_saveInternal (path : String) (callback : Bool)
    (answer : SystemAnswer) : Silent w (w.saveInternal codec path callback answer) := by
  unfold saveInternal
  dsimp only
  split
  · refine Silent.trans ?_ (silent_runActionCallback ..)
    refine ⟨rfl, rfl, rfl, fun _ _ h => h, fun result now fromCache gone hmem => ?_⟩
    rcases mem_cons.mp hmem with heq | hmem
    · cases heq
    · exact hmem
  · generalize (if path = "" then w.manager.getDefaultStateFilePath w.directory.path
      else resolveManagedStatePath w.directory.path path) = outputPath
    split
    · exact silent_runActionCallback ..
    · exact silent_saveToJournal ..

lemma silent_initializeAt (answer : SystemAnswer) : Silent w (w.initializeAt codec answer) := by
  unfold StorageWorld.initializeAt
  split
  · exact .refl w
  · split <;> exact ⟨rfl, rfl, rfl, fun _ _ h => h, fun _ _ _ _ h => h⟩

lemma silent_setSessionName (sessionName : String) : Silent w (w.setSessionName sessionName) := by
  unfold StorageWorld.setSessionName
  split <;> exact ⟨rfl, rfl, rfl, fun _ _ h => h, fun _ _ _ _ h => h⟩

lemma silent_markDirty (origin : String) :
    Silent w { w with manager := w.manager.markDirty origin, log := .markedDirty :: w.log } := by
  refine ⟨rfl, rfl, rfl, fun _ _ h => h, fun result now fromCache gone hmem => ?_⟩
  rcases mem_cons.mp hmem with heq | hmem
  · cases heq
  · exact hmem

lemma silent_execute (answer : SystemAnswer) {call : StorageCall}
    (hcall : call.request ≠ .list) : Silent w (w.execute codec answer call) := by
  obtain ⟨request, callback⟩ := call
  cases request with
  | save path => exact silent_saveInternal ..
  | load path =>
    simp only [execute, loadInternal]
    split
    · exact silent_runActionCallback ..
    · split <;> exact silent_runActionCallback ..
  | list => exact absurd rfl hcall
  | «show» path =>
    simp only [execute, showInternal]
    split
    · exact silent_onReadComplete ..
    · exact silent_postTask ..
  | rename path newName =>
    simp only [execute, renameInternal]
    split
    · exact silent_runActionCallback ..
    · exact silent_postTask ..
  | clear path =>
    simp only [execute, clearInternal]
    split
    · exact silent_postTask ..
    · split
      · exact silent_runActionCallback ..
      · exact silent_postTask ..
  | cleanOlderThan days => exact silent_postTask ..

lemma log_onListComplete (callback : Bool) (result : StorageStateListResult)
    (fromCache : Bool) : (w.onListComplete callback result fromCache).log =
      if callback then .listed result w.now fromCache w.gone :: w.log else w.log := by
  unfold onListComplete
  cases result.success <;> cases callback <;> rfl

end

lemma Listed.onListComplete (h : w.Listed) (callback : Bool) {result : StorageStateListResult}
    (fromCache : Bool) (hcurrent : Unlisted result.entries w.gone) :
    (w.onListComplete callback result fromCache).Listed := by
  have hlog : (w.onListComplete callback result fromCache).CurrentLists := by
    intro result' now' fromCache' gone' hmem
    rw [log_onListComplete] at hmem
    split at hmem
    · rcases mem_cons.mp hmem with heq | hmem
      · cases heq
        exact hcurrent
      · exact h.current result' now' fromCache' gone' hmem
    · exact h.current result' now' fromCache' gone' hmem
  unfold StorageWorld.onListComplete at hlog ⊢
  cases hsuccess : result.success with
  | true =>
    rw [hsuccess] at hlog
    cases callback with
    | true => exact ⟨hlog, h.pending, fun _ => hcurrent, h.gone, h.removed⟩
    | false => exact ⟨hlog, h.pending, fun _ => hcurrent, h.gone, h.removed⟩
  | false =>
    rw [hsuccess] at hlog
    cases callback with
    | true => exact ⟨hlog, h.pending, h.cached, h.gone, h.removed⟩
    | false => exact h

lemma Listed.execute (h : w.Listed) (answer : SystemAnswer) (call : StorageCall) :
    (w.execute codec answer call).Listed := by
  by_cases hcall : call.request = .list
  · obtain ⟨request, callback⟩ := call
    obtain rfl : request = .list := hcall
    simp only [StorageWorld.execute, listInternal]
    split
    · rename_i husable
      have hvalid : w.manager.cachedDirectoryState.valid = true := by
        simp only [CefStorageStateManager.cacheUsable, Bool.and_eq_true] at husable
        exact husable.1.1
      exact h.onListComplete callback true (h.cached hvalid)
    · exact h.of_silent (silent_postTask ..)
  · exact h.of_silent (silent_execute w answer hcall)

/-! ### Tasks -/

lemma exists_of_mem_recheck {tasks : List PostedTask} {d : SessionsDirectory} {reply : StorageReply}
    {callback : Bool} (h : PostedTask.finished reply callback ∈ tasks.map (PostedTask.recheck d)) :
    ∃ reply', PostedTask.finished reply' callback ∈ tasks ∧ reply = reply'.recheck d := by
  obtain ⟨task, htask, heq⟩ := mem_map.mp h
  cases task with
  | posted task callback' => cases heq
  | finished reply' callback' =>
    cases heq
    exact ⟨reply', htask, rfl⟩
  | replied => cases heq

lemma Listed.withDirectory (h : w.Listed) (d : SessionsDirectory) : (w.withDirectory d).Listed := by
  refine ⟨h.current, fun e he hgone => ?_, fun hvalid e he hgone => ?_,
    fun name hname => (mem_stillGone.mp hname).2, fun reply callback hmem name hname => ?_⟩
  · obtain ⟨result, callback, hmem, he⟩ := mem_pendingEntries.mp he
    obtain ⟨reply', hmem, heq⟩ := exists_of_mem_recheck hmem
    cases reply' with
    | list result' =>
      cases heq
      exact h.pending e (mem_pendingEntries.mpr ⟨result, callback, hmem, he⟩)
        (mem_stillGone.mp hgone).1
    | action result' removed => cases heq
    | read result' removed => cases heq
  · exact h.cached hvalid e he (mem_stillGone.mp hgone).1
  · obtain ⟨reply', hmem, rfl⟩ := exists_of_mem_recheck hmem
    cases reply' with
    | list result' => cases hname
    | action result' removed => exact (mem_stillGone.mp hname).2
    | read result' removed => exact (mem_stillGone.mp hname).2

lemma runBody_spec (w : StorageWorld) (deleteOk : String → Bool) (moveOk : Bool)
    (task : StorageTask) :
    (∀ name ∈ (w.runBody deleteOk moveOk task).1.removed,
        (w.runBody deleteOk moveOk task).2.lookup name = none) ∧
      ∀ result, (w.runBody deleteOk moveOk task).1 = .list result →
        ∀ e ∈ result.entries, (w.runBody deleteOk moveOk task).2.lookup e.filename ≠ none := by
  cases task with
  | list =>
    refine ⟨fun name hname => absurd hname not_mem_nil, fun result heq e he => ?_⟩
    cases heq
    exact lookup_ne_none_of_mem_listStates he
  | «show» path => exact ⟨fun name hname => absurd hname not_mem_nil, fun result heq => by cases heq⟩
  | rename oldPath newName =>
    exact ⟨fun name hname => (mem_stillGone.mp hname).2, fun result heq => by cases heq⟩
  | clear path =>
    exact ⟨fun name hname => (mem_stillGone.mp hname).2, fun result heq => by cases heq⟩
  | clean days =>
    exact ⟨fun name hname => (mem_stillGone.mp hname).2, fun result heq => by cases heq⟩

variable {a : StorageAction} {i : Nat}

lemma Listed.runTask (h : w.Listed) {deleteOk : String → Bool} {moveOk : Bool}
    (hw : w.runTask i deleteOk moveOk = some w') : w'.Listed := by
  unfold StorageWorld.runTask at hw
  split at hw
  · rename_i task callback htask
    cases hw
    obtain ⟨hremoved, hlisted⟩ := runBody_spec w deleteOk moveOk task
    have hchanged := h.withDirectory (w.runBody deleteOk moveOk task).2
    refine ⟨hchanged.current, fun e he hgone => ?_, hchanged.cached,
      hchanged.gone, fun reply callback' hmem => ?_⟩
    · obtain ⟨result, callback', hmem, he⟩ := mem_pendingEntries.mp he
      rcases mem_or_eq_of_mem_set hmem with hmem | heq
      · exact hchanged.pending e (mem_pendingEntries.mpr ⟨result, callback', hmem, he⟩) hgone
      · obtain ⟨hreply, -⟩ := PostedTask.finished.inj heq
        exact hlisted result hreply.symm e he (hchanged.gone _ hgone)
    · rcases mem_or_eq_of_mem_set hmem with hmem | heq
      · exact hchanged.removed reply callback' hmem
      · obtain ⟨rfl, -⟩ := PostedTask.finished.inj heq
        exact hremoved
  · cases hw

lemma Listed.reply (h : w.Listed) (hi : w.RemovalsInOrder (.reply i))
    (hw : w.reply i = some w') : w'.Listed := by
  unfold StorageWorld.reply at hw
  split at hw
  · rename_i reply callback htask
    simp only [RemovalsInOrder, htask] at hi
    obtain ⟨hpending, hcached⟩ := hi
    have hmem : PostedTask.finished reply callback ∈ w.tasks := mem_of_getElem? htask
    have hset : ∀ {reply' callback'},
        PostedTask.finished reply' callback' ∈ w.tasks.set i .replied →
          PostedTask.finished reply' callback' ∈ w.tasks := by
      intro reply' callback' hmem'
      rcases mem_or_eq_of_mem_set hmem' with hmem' | heq
      · exact hmem'
      · cases heq
    have hgone : ∀ name ∈ reply.completed ++ w.gone, w.directory.lookup name = none := by
      intro name hname
      rcases mem_append.mp hname with hname | hname
      · exact h.removed reply callback hmem name (reply.completed_subset hname)
      · exact h.gone name hname
    -- the listings on their way and the files that are gone now
    have hlists : Unlisted ((w.tasks.set i .replied).flatMap PostedTask.entries)
        (reply.completed ++ w.gone) := by
      refine Unlisted.append (fun e he => ?_) (fun e he => ?_)
      · obtain ⟨result, callback', hmem', he⟩ := mem_pendingEntries
          (w := { w with tasks := w.tasks.set i .replied }).mp he
        exact hpending e (mem_pendingEntries.mpr ⟨result, callback', hset hmem', he⟩)
      · obtain ⟨result, callback', hmem', he⟩ := mem_pendingEntries
          (w := { w with tasks := w.tasks.set i .replied }).mp he
        exact h.pending e (mem_pendingEntries.mpr ⟨result, callback', hset hmem', he⟩)
    have hremoved : ∀ reply' callback',
        PostedTask.finished reply' callback' ∈ w.tasks.set i .replied →
          ∀ name ∈ reply'.removed, w.directory.lookup name = none := fun reply' callback' hmem' =>
      h.removed reply' callback' (hset hmem')
    split at hw
    · rename_i result
      cases hw
      have hclosed : Listed { w with
          tasks := w.tasks.set i .replied
          gone := (StorageReply.list result).completed ++ w.gone } :=
        ⟨h.current, hlists, h.cached, hgone, hremoved⟩
      refine hclosed.onListComplete callback false fun e he => ?_
      exact h.pending e (mem_pendingEntries.mpr ⟨result, callback, hmem, he⟩)
    · rename_i result removed
      cases hw
      unfold onActionComplete
      refine Listed.of_silent ?_ (silent_runActionCallback ..)
      cases hsuccess : result.success with
      | true =>
        rw [if_pos rfl]
        exact ⟨h.current, hlists, Bool.noConfusion, hgone, hremoved⟩
      | false =>
        have hnothing : (StorageReply.action result removed).completed = [] := by
          simp [StorageReply.completed, hsuccess]
        rw [hnothing] at hlists hgone ⊢
        exact ⟨h.current, hlists, h.cached, hgone, hremoved⟩
    · rename_i result removed
      cases hw
      have hclosed : Listed { w with
          tasks := w.tasks.set i .replied
          gone := (StorageReply.read result removed).completed ++ w.gone } :=
        ⟨h.current, hlists,
          fun hvalid => (hcached rfl hvalid).append (h.cached hvalid), hgone, hremoved⟩
      exact hclosed.of_silent (silent_onReadComplete ..)
  · cases hw

/-! ### Runs -/

lemma Listed.step (h : w.Listed) (ha : w.RemovalsInOrder a)
    (hw : w.step codec a = some w') : w'.Listed := by
  cases a with
  | initializeAt answer =>
    cases hw
    exact h.of_silent (silent_initializeAt ..)
  | runInitCallback answer =>
    simp only [StorageWorld.step, StorageWorld.runInitCallback] at hw
    split at hw
    · rename_i call calls hinitialized hcalls
      cases hw
      have hpopped : Listed { w with manager := { w.manager with initCallbacks := calls } } :=
        h.of_silent ⟨rfl, rfl, rfl, fun _ _ h => h, fun _ _ _ _ h => h⟩
      exact hpopped.execute answer call
    · cases hw
  | call call answer =>
    cases hw
    unfold storeOrTriggerInitCallback
    split
    · exact h.execute answer call
    · exact h.of_silent ⟨rfl, rfl, rfl, fun _ _ h => h, fun _ _ _ _ h => h⟩
  | markDirty origin =>
    cases hw
    exact h.of_silent (silent_markDirty ..)
  | setSessionName sessionName =>
    cases hw
    exact h.of_silent (silent_setSessionName ..)
  | runTask i deleteOk moveOk => exact h.runTask hw
  | reply i => exact h.reply ha hw
  | writeFile name file =>
    cases hw
    exact h.withDirectory _
  | wait microseconds =>
    cases hw
    exact h.of_silent ⟨rfl, rfl, rfl, fun _ _ h => h, fun _ _ _ _ h => h⟩

/-! ### Answers in time -/

section

variable (h : w.TimelyLists)
include h

lemma TimelyLists.of_log_eq (hlog : w'.log = w.log) : w'.TimelyLists := by
  intro result now gone hmem
  rw [hlog] at hmem
  exact h result now gone hmem

lemma TimelyLists.of_silent (hsilent : Silent w w') : w'.TimelyLists :=
  fun result now gone hmem => h result now gone (hsilent.listed _ _ _ _ hmem)

lemma TimelyLists.onListComplete (callback : Bool)
    (result : StorageStateListResult) : (w.onListComplete callback result false).TimelyLists := by
  intro result' now' gone' hmem
  rw [log_onListComplete] at hmem
  split at hmem
  · rcases mem_cons.mp hmem with heq | hmem
    · cases heq
    · exact h result' now' gone' hmem
  · exact h result' now' gone' hmem

lemma TimelyLists.execute_iff (answer : SystemAnswer) (call : StorageCall) :
    (w.execute codec answer call).TimelyLists ↔ (call = ⟨.list, true⟩ → w.CacheTimely) := by
  by_cases hcall : call.request = .list
  · obtain ⟨request, callback⟩ := call
    obtain rfl : request = .list := hcall
    simp only [execute, listInternal]
    split
    · rename_i husable
      have hiff : w.CacheTimely ↔
          w.now - w.manager.cachedDirectoryState.performedAt ≤ cacheLifetime :=
        ⟨fun htimely => htimely husable, fun hage _ => hage⟩
      rw [hiff]
      constructor
      · intro htimely hcallback
        obtain rfl : callback = true := congrArg StorageCall.callback hcallback
        refine htimely w.manager.cachedResult w.now w.gone ?_
        rw [log_onListComplete]
        exact mem_cons_self
      · intro hage result now gone hmem
        rw [log_onListComplete] at hmem
        split at hmem
        · rename_i hcallback
          rcases mem_cons.mp hmem with heq | hmem
          · cases heq
            exact hage (by rw [hcallback])
          · exact h result now gone hmem
        · exact h result now gone hmem
    · rename_i husable
      exact iff_of_true (h.of_silent (silent_postTask ..)) fun _ husable' => absurd husable' husable
  · refine iff_of_true (h.of_silent (silent_execute w answer hcall)) fun heq => ?_
    rw [heq] at hcall
    exact absurd rfl hcall

lemma TimelyLists.runInitCallback_iff {answer : SystemAnswer}
    (hw : w.runInitCallback codec answer = some w') :
    w'.TimelyLists ↔ w.ListsInTime (.runInitCallback answer) := by
  simp only [StorageWorld.runInitCallback] at hw
  split at hw
  · rename_i call calls hinitialized hcalls
    cases hw
    have hpopped : TimelyLists { w with manager := { w.manager with initCallbacks := calls } } := h
    rw [hpopped.execute_iff answer call]
    simp only [ListsInTime, hinitialized, hcalls]
    split
    · rename_i heq
      obtain ⟨rfl, rfl⟩ := cons.inj heq
      exact ⟨fun htimely => htimely rfl, fun htimely _ => htimely⟩
    · rename_i hother
      refine iff_of_true (fun heq => ?_) trivial
      subst heq
      exact absurd rfl (hother calls rfl)
  · cases hw

end

lemma listsInTime_call_iff {call : StorageCall} {answer : SystemAnswer} :
    w.ListsInTime (.call call answer) ↔
      (w.manager.initialized = true → call = ⟨.list, true⟩ → w.CacheTimely) := by
  unfold ListsInTime
  split
  · rename_i heq
    cases heq
    exact ⟨fun htimely hinitialized _ => htimely hinitialized,
      fun htimely hinitialized => htimely hinitialized rfl⟩
  · rename_i heq
    cases heq
  · rename_i hother _
    refine iff_of_true trivial fun _ heq => ?_
    subst heq
    exact (hother answer rfl).elim

lemma TimelyLists.call_iff (h : w.TimelyLists) (call : StorageCall) (answer : SystemAnswer) :
    (w.storeOrTriggerInitCallback codec call answer).TimelyLists ↔
      w.ListsInTime (.call call answer) := by
  rw [listsInTime_call_iff]
  unfold storeOrTriggerInitCallback
  split
  · rename_i hinitialized
    rw [h.execute_iff answer call]
    exact ⟨fun htimely _ => htimely, fun htimely => htimely hinitialized⟩
  · rename_i hinitialized
    exact iff_of_true (h.of_log_eq rfl) fun htrue => absurd htrue hinitialized

lemma TimelyLists.reply (h : w.TimelyLists) (hw : w.reply i = some w') : w'.TimelyLists := by
  unfold StorageWorld.reply at hw
  split at hw
  · rename_i reply callback htask
    have hclosed : TimelyLists { w with
        tasks := w.tasks.set i .replied, gone := reply.completed ++ w.gone } := h
    split at hw
    · cases hw
      exact hclosed.onListComplete callback _
    · cases hw
      unfold onActionComplete
      refine TimelyLists.of_silent ?_ (silent_runActionCallback ..)
      refine TimelyLists.of_log_eq h ?_
      split <;> rfl
    · cases hw
      exact hclosed.of_silent (silent_onReadComplete ..)
  · cases hw

/-- **A step** that comes back gives timely answers if and only if listings are asked for in time. -/
lemma TimelyLists.step_iff (h : w.TimelyLists)
    (hw : w.step codec a = some w') : w'.TimelyLists ↔ w.ListsInTime a := by
  cases a with
  | initializeAt answer =>
    cases hw
    exact iff_of_true (h.of_silent (silent_initializeAt ..)) trivial
  | runInitCallback answer => exact h.runInitCallback_iff hw
  | call call answer =>
    cases hw
    exact h.call_iff call answer
  | markDirty origin =>
    cases hw
    exact iff_of_true (h.of_silent (silent_markDirty ..)) trivial
  | setSessionName sessionName =>
    cases hw
    exact iff_of_true (h.of_silent (silent_setSessionName ..)) trivial
  | runTask i deleteOk moveOk =>
    simp only [StorageWorld.step, StorageWorld.runTask] at hw
    split at hw
    · cases hw
      exact iff_of_true (h.of_log_eq rfl) trivial
    · cases hw
  | reply i => exact iff_of_true (h.reply hw) trivial
  | writeFile name file =>
    cases hw
    exact iff_of_true (h.of_log_eq rfl) trivial
  | wait microseconds =>
    cases hw
    exact iff_of_true (h.of_log_eq rfl) trivial

lemma exists_step_of_not_inTime (codec : JsonCodec) (ha : ¬ w.ListsInTime a) :
    ∃ w', w.step codec a = some w' := by
  unfold ListsInTime at ha
  split at ha
  · exact ⟨_, rfl⟩
  · split at ha
    · rename_i hinitialized hcalls
      simp only [StorageWorld.step, StorageWorld.runInitCallback, hinitialized, hcalls]
      exact ⟨_, rfl⟩
    · exact absurd trivial ha
  · exact absurd trivial ha

lemma listed_start (directory : SessionsDirectory) (journalDisk : Disk) (now : Int) :
    (start directory journalDisk now).Listed := by
  constructor <;>
    simp [CurrentLists, start, CefStorageStateManager.new, pendingEntries, Unlisted]

/-- **Fresh listings**: in a run of a new manager every answer out of the cache is timely if and
only if listings are asked for in time; and every answer is current if removals complete in order.

**Proof sketch.** A listing has the files that are there when the directory is enumerated. Files go
when an operation completes: those are in no listing on its way, and the cached one becomes invalid
or does not have them either. -/
theorem lists_fresh (codec : JsonCodec) (directory : SessionsDirectory) (journalDisk : Disk)
    (now : Int) (actions : List StorageAction) :
    (Always (step codec) TimelyLists (start directory journalDisk now) actions ↔
      Along (step codec) ListsInTime (start directory journalDisk now) actions) ∧
    (Along (step codec) RemovalsInOrder (start directory journalDisk now) actions →
      Always (step codec) CurrentLists (start directory journalDisk now) actions) := by
  have hstart := listed_start directory journalDisk now
  constructor
  · refine Along.iff_always (I := fun _ => True)
      (fun w a w' _ h ha hw => ⟨trivial, (h.step_iff hw).mpr ha⟩) (fun w a _ h ha => ?_) actions _
      trivial fun _ _ _ hmem => absurd hmem not_mem_nil
    obtain ⟨w', hw⟩ := exists_step_of_not_inTime codec ha
    exact ⟨w', hw, fun htimely => ha ((h.step_iff hw).mp htimely)⟩
  · intro h n w hw
    have hlisted : Always (step codec) Listed (start directory journalDisk now)
        actions :=
      Along.always (fun w a w' hlisted ha hw => hlisted.step ha hw) hstart h
    exact (hlisted n w hw).current

def listActions (i : Nat) : List StorageAction :=
  [.call ⟨.list, true⟩ {}, .runTask i (fun _ => true) true, .reply i]

def oneFile : SessionsDirectory := ⟨"/home/u", true, [(⟨"a.json", by decide⟩, ⟨[], 0⟩)]⟩

def emptyCodec : JsonCodec := .ofTable [] JsonCodec.tableLaws_nil

/-- A file is listed, and listed again out of the cache. Then it is cleared. -/
theorem lists_fresh_cleared : Always (step emptyCodec) CurrentLists
    (start oneFile (fun _ => none) 0) ([.initializeAt {}] ++ listActions 0 ++
      [.call ⟨.list, true⟩ {}, .call ⟨.clear "", true⟩ {}, .runTask 1 (fun _ => true) true,
        .reply 1]) :=
  (lists_fresh emptyCodec oneFile (fun _ => none) 0 _).2 (by decide +kernel)

def StorageEvent.isLate : StorageEvent → Bool
  | .listed result now true _ => cacheLifetime < now - result.performedAt
  | _ => false

def StorageEvent.isStale : StorageEvent → Bool
  | .listed result _ _ gone => !decide (Unlisted result.entries gone)
  | _ => false

lemma not_timelyLists {w : StorageWorld} (h : w.log.any StorageEvent.isLate = true) :
    ¬ TimelyLists w := by
  intro htimely
  obtain ⟨e, he, hlate⟩ := any_eq_true.mp h
  cases e with
  | listed result now fromCache gone =>
    cases fromCache with
    | true =>
      have := htimely result now gone he
      simp only [StorageEvent.isLate, decide_eq_true_eq] at hlate
      omega
    | false => cases hlate
  | _ => cases hlate

lemma not_currentLists {w : StorageWorld} (h : w.log.any StorageEvent.isStale = true) :
    ¬ CurrentLists w := by
  intro hcurrent
  obtain ⟨e, he, hstale⟩ := any_eq_true.mp h
  cases e with
  | listed result now fromCache gone =>
    have hunlisted := hcurrent result now fromCache gone he
    simp [StorageEvent.isStale, hunlisted] at hstale
  | _ => cases hstale

/-- The directory is listed, and twice more out of the cache, each time after four seconds. -/
def lateActions : List StorageAction :=
  .initializeAt {} :: listActions 0 ++
    [.wait 4000000, .call ⟨.list, true⟩ {}, .wait 4000000, .call ⟨.list, true⟩ {}]

def staleActions : List StorageAction :=
  .initializeAt {} :: listActions 0 ++
    [.call ⟨.cleanOlderThan 0, true⟩ {}, .runTask 1 (fun _ => true) true, .reply 1,
      .call ⟨.list, true⟩ {}]

/-- A listing is given out twice out of the cache, four seconds apart, so that the second answer is
eight seconds old. And a cleaning removes a file that the next answer out of the cache still has. -/
theorem lists_not_fresh :
    (¬ ∀ (codec : JsonCodec) (directory : SessionsDirectory) (journalDisk : Disk) (now : Int)
      (actions : List StorageAction),
        Always (step codec) TimelyLists (start directory journalDisk now) actions) ∧
    ¬ ∀ (codec : JsonCodec) (directory : SessionsDirectory) (journalDisk : Disk) (now : Int)
      (actions : List StorageAction),
        Always (step codec) CurrentLists (start directory journalDisk now) actions := by
  constructor
  · intro h
    have htimely := h emptyCodec oneFile (fun _ => none) 0 lateActions
    exact not_always_of_any 8 (by decide +kernel) (fun _ => not_timelyLists) htimely
  · intro h
    have hcurrent := h emptyCodec oneFile (fun _ => none) 1 staleActions
    exact not_always_of_any 8 (by decide +kernel) (fun _ => not_currentLists) hcurrent

end StorageWorld

end CefCore.Browser
