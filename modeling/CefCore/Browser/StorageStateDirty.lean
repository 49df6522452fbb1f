import CefCore.Browser.StorageStateManager

/-!
# The dirty flag of the storage state manager

A save is skipped if the flag is not set. The flag is cleared by a save that has flushed the journal,
and also by the reply of a rename or a clear, which have saved nothing.

## Main results

* `dirtyTracked_iff`: the runs in which the flag tells of all changes.
-/

namespace CefCore.Browser

open List Transition

/-- In a log with the newest event first, something has been marked as modified since the last
flush. -/
def modifiedSinceSave : List StorageEvent → Bool
  | [] => false
  | .markedDirty :: _ => true
  | .flushed :: _ => false
  | _ :: log => modifiedSinceSave log

def StorageEvent.Quiet : StorageEvent → Prop
  | .markedDirty | .flushed | .skippedSave => False
  | _ => True

lemma modifiedSinceSave_cons_of_quiet {e : StorageEvent} (h : e.Quiet) (log : List StorageEvent) :
    modifiedSinceSave (e :: log) = modifiedSinceSave log := by
  cases e with
  | markedDirty => exact h.elim
  | flushed => exact h.elim
  | skippedSave => exact h.elim
  | action success error path => rfl
  | read result => rfl
  | listed result now fromCache gone => rfl

namespace StorageWorld

variable {codec : JsonCodec} {w w' : StorageWorld}

/-- **Dirty tracking**: if the flag is not set, then nothing has been modified since the last save
that has flushed; and no save has been skipped while there was a modification. -/
structure DirtyTracked (w : StorageWorld) : Prop where
  clean : w.manager.dirty = false → modifiedSinceSave w.log = false
  skipped : ∀ earlier, StorageEvent.skippedSave :: earlier <:+ w.log →
    modifiedSinceSave earlier = false

/-- A step that forgets no modification: if it is the reply of a successful rename or clear, then
there is none. -/
def NothingForgotten (w : StorageWorld) : StorageAction → Prop
  | .reply i => ∀ result removed callback,
      w.tasks[i]? = some (.finished (.action result removed) callback) → result.success = true →
        modifiedSinceSave w.log = false
  | _ => True

structure Quiet (w w' : StorageWorld) : Prop where
  dirty_eq : w'.manager.dirty = w.manager.dirty
  log_eq : w'.log = w.log ∨ ∃ e : StorageEvent, e.Quiet ∧ w'.log = e :: w.log

lemma Quiet.of_eq (hdirty : w'.manager.dirty = w.manager.dirty) (hlog : w'.log = w.log) :
    Quiet w w' := ⟨hdirty, .inl hlog⟩

lemma Quiet.modified_eq (h : Quiet w w') : modifiedSinceSave w'.log = modifiedSinceSave w.log := by
  rcases h.log_eq with hlog | ⟨e, he, hlog⟩
  · rw [hlog]
  · rw [hlog, modifiedSinceSave_cons_of_quiet he]

lemma DirtyTracked.of_quiet (h : w.DirtyTracked) (hquiet : Quiet w w') : w'.DirtyTracked := by
  refine ⟨fun hdirty => ?_, fun earlier hsuffix => ?_⟩
  · rw [hquiet.modified_eq]
    exact h.clean (hquiet.dirty_eq ▸ hdirty)
  · rcases hquiet.log_eq with hlog | ⟨e, he, hlog⟩
    · exact h.skipped earlier (hlog ▸ hsuffix)
    · rw [hlog] at hsuffix
      rcases suffix_cons_iff.mp hsuffix with heq | hsuffix
      · obtain ⟨rfl, -⟩ := cons.inj heq
        exact he.elim
      · exact h.skipped earlier hsuffix

/-! ### Quiet calls -/

section

variable (w : StorageWorld)

lemma quiet_runActionCallback (callback success : Bool) (error path : String) :
    Quiet w (w.runActionCallback callback success error path) := by
  unfold runActionCallback
  split
  · exact ⟨rfl, .inr ⟨.action success error path, trivial, rfl⟩⟩
  · exact .of_eq rfl rfl

lemma quiet_onReadComplete (callback : Bool) (result : StorageStateReadResult) :
    Quiet w (w.onReadComplete callback result) := by
  unfold onReadComplete
  split
  · exact ⟨rfl, .inr ⟨.read result, trivial, rfl⟩⟩
  · exact .of_eq rfl rfl

lemma quiet_onListComplete (callback : Bool) (result : StorageStateListResult)
    (fromCache : Bool) : Quiet w (w.onListComplete callback result fromCache) := by
  unfold onListComplete
  cases result.success <;> cases callback <;>
    first
      | exact .of_eq rfl rfl
      | exact ⟨rfl, .inr ⟨.listed result w.now fromCache w.gone, trivial, rfl⟩⟩

lemma quiet_loadInternal (path : String) (callback : Bool) :
    Quiet w (w.loadInternal path callback) := by
  unfold loadInternal
  dsimp only
  split
  · exact quiet_runActionCallback ..
  · split <;> exact quiet_runActionCallback ..

lemma quiet_listInternal (callback : Bool) : Quiet w (w.listInternal callback) := by
  unfold listInternal
  split
  · exact quiet_onListComplete ..
  · exact .of_eq rfl rfl

lemma quiet_showInternal (path : String) (callback : Bool) :
    Quiet w (w.showInternal path callback) := by
  unfold showInternal
  dsimp only
  split
  · exact quiet_onReadComplete ..
  · exact .of_eq rfl rfl

lemma quiet_renameInternal (path newName : String) (callback : Bool) :
    Quiet w (w.renameInternal path newName callback) := by
  unfold renameInternal
  dsimp only
  split
  · exact quiet_runActionCallback ..
  · exact .of_eq rfl rfl

lemma quiet_clearInternal (path : String) (callback : Bool) :
    Quiet w (w.clearInternal path callback) := by
  unfold clearInternal
  dsimp only
  split
  · exact .of_eq rfl rfl
  · split
    · exact quiet_runActionCallback ..
    · exact .of_eq rfl rfl

/-! ### Saving -/

lemma saveToJournal_cases (outputPath : String) (callback : Bool)
    (answer : SystemAnswer) : Quiet w (w.saveToJournal codec outputPath callback answer) ∨
      ∃ v, Quiet v (w.saveToJournal codec outputPath callback answer) ∧
        v.manager.dirty = false ∧ v.log = .flushed :: w.log := by
  unfold saveToJournal
  split
  · exact .inl (quiet_runActionCallback ..)
  · split
    · exact .inl (quiet_runActionCallback ..)
    · dsimp only
      split
      · exact .inl (quiet_runActionCallback ..)
      · exact .inr ⟨_, quiet_runActionCallback .., rfl, rfl⟩

end

/-- **A save** keeps dirty tracking: it is skipped only if nothing has been modified, and otherwise
the flag is cleared behind a flush. -/
lemma DirtyTracked.saveInternal (h : w.DirtyTracked) (path : String) (callback : Bool)
    (answer : SystemAnswer) : (w.saveInternal codec path callback answer).DirtyTracked := by
  unfold StorageWorld.saveInternal
  dsimp only
  split
  · rename_i hclean
    have hdirty : w.manager.dirty = false := by simpa using hclean
    have hskipped : DirtyTracked { w with log := .skippedSave :: w.log } := by
      refine ⟨fun _ => h.clean hdirty, fun earlier hsuffix => ?_⟩
      rcases suffix_cons_iff.mp hsuffix with heq | hsuffix
      · obtain ⟨-, rfl⟩ := cons.inj heq
        exact h.clean hdirty
      · exact h.skipped earlier hsuffix
    exact hskipped.of_quiet (quiet_runActionCallback ..)
  · generalize (if path = "" then w.manager.getDefaultStateFilePath w.directory.path
      else resolveManagedStatePath w.directory.path path) = outputPath
    split
    · exact h.of_quiet (quiet_runActionCallback ..)
    · rcases saveToJournal_cases w outputPath callback answer with hquiet | ⟨v, hquiet, hdirty, hlog⟩
      · exact h.of_quiet hquiet
      · refine DirtyTracked.of_quiet ⟨fun _ => ?_, fun earlier hsuffix => ?_⟩ hquiet
        · rw [hlog]
          rfl
        · rw [hlog] at hsuffix
          rcases suffix_cons_iff.mp hsuffix with heq | hsuffix
          · exact nomatch (cons.inj heq).1
          · exact h.skipped earlier hsuffix

lemma DirtyTracked.execute (h : w.DirtyTracked) (answer : SystemAnswer) (call : StorageCall) :
    (w.execute codec answer call).DirtyTracked := by
  obtain ⟨request, callback⟩ := call
  cases request with
  | save path => exact h.saveInternal path callback answer
  | load path => exact h.of_quiet (quiet_loadInternal w path callback)
  | list => exact h.of_quiet (quiet_listInternal w callback)
  | «show» path => exact h.of_quiet (quiet_showInternal w path callback)
  | rename path newName => exact h.of_quiet (quiet_renameInternal w path newName callback)
  | clear path => exact h.of_quiet (quiet_clearInternal w path callback)
  | cleanOlderThan days => exact h.of_quiet (.of_eq rfl rfl)

/-! ### Replies -/

lemma onActionComplete_cases (w : StorageWorld) (callback : Bool)
    (result : StorageStateActionResult) : ∃ v : StorageWorld,
      Quiet v (w.onActionComplete callback result) ∧ v.log = w.log ∧
      v.manager.dirty = (!result.success && w.manager.dirty) := by
  unfold onActionComplete
  cases result.success with
  | false => exact ⟨w, quiet_runActionCallback .., rfl, rfl⟩
  | true => exact ⟨_, quiet_runActionCallback .., rfl, rfl⟩

lemma DirtyTracked.reply_iff (h : w.DirtyTracked) {i : Nat} (hw : w.reply i = some w') :
    w'.DirtyTracked ↔ w.NothingForgotten (.reply i) := by
  unfold StorageWorld.reply at hw
  split at hw
  · rename_i reply callback htask
    have hclosed : DirtyTracked { w with
        tasks := w.tasks.set i .replied, gone := reply.completed ++ w.gone } := ⟨h.1, h.2⟩
    have hother : (∀ result removed, reply ≠ .action result removed) →
        w.NothingForgotten (.reply i) := by
      intro hne result removed callback' htask'
      rw [htask] at htask'
      cases htask'
      exact absurd rfl (hne result removed)
    split at hw
    · cases hw
      exact iff_of_true (hclosed.of_quiet (quiet_onListComplete ..)) (hother (by simp))
    · rename_i result removed
      cases hw
      obtain ⟨v, hquiet, hlog, hdirty⟩ := onActionComplete_cases { w with
        tasks := w.tasks.set i .replied
        gone := (StorageReply.action result removed).completed ++ w.gone } callback result
      constructor
      · intro htracked result' removed' callback' htask' hsuccess
        rw [htask] at htask'
        cases htask'
        have hclean := htracked.clean (by rw [hquiet.dirty_eq, hdirty, hsuccess]; rfl)
        rwa [hquiet.modified_eq, hlog] at hclean
      · intro hforgotten
        refine DirtyTracked.of_quiet ⟨fun hclean => ?_, fun earlier hsuffix => ?_⟩ hquiet
        · rw [hlog]
          cases hsuccess : result.success with
          | false =>
            rw [hdirty, hsuccess] at hclean
            exact h.clean hclean
          | true => exact hforgotten result removed callback htask hsuccess
        · rw [hlog] at hsuffix
          exact h.skipped earlier hsuffix
    · cases hw
      exact iff_of_true (hclosed.of_quiet (quiet_onReadComplete ..)) (hother (by simp))
  · cases hw

lemma nothingForgotten_of_reply_eq_none {i : Nat} (hw : w.reply i = none) :
    w.NothingForgotten (.reply i) := by
  intro result removed callback htask
  simp [StorageWorld.reply, htask] at hw

/-! ### Runs -/

lemma DirtyTracked.step (h : w.DirtyTracked) {a : StorageAction} (ha : w.NothingForgotten a)
    (hw : w.step codec a = some w') : w'.DirtyTracked := by
  cases a with
  | initializeAt answer =>
    cases hw
    refine h.of_quiet ?_
    unfold StorageWorld.initializeAt
    split
    · exact .of_eq rfl rfl
    · split <;> exact .of_eq rfl rfl
  | runInitCallback answer =>
    simp only [StorageWorld.step, StorageWorld.runInitCallback] at hw
    split at hw
    · rename_i call calls hinitialized hcalls
      cases hw
      have hpopped : DirtyTracked { w with
          manager := { w.manager with initCallbacks := calls } } := ⟨h.1, h.2⟩
      exact hpopped.execute answer call
    · cases hw
  | call call answer =>
    cases hw
    unfold storeOrTriggerInitCallback
    split
    · exact h.execute answer call
    · exact h.of_quiet (.of_eq rfl rfl)
  | markDirty origin =>
    cases hw
    refine ⟨Bool.noConfusion, fun earlier hsuffix => ?_⟩
    rcases suffix_cons_iff.mp hsuffix with heq | hsuffix
    · exact nomatch (cons.inj heq).1
    · exact h.skipped earlier hsuffix
  | setSessionName sessionName =>
    cases hw
    refine h.of_quiet ?_
    unfold StorageWorld.setSessionName
    split <;> exact .of_eq rfl rfl
  | runTask i deleteOk moveOk =>
    simp only [StorageWorld.step, StorageWorld.runTask] at hw
    split at hw
    · cases hw
      exact h.of_quiet (.of_eq rfl rfl)
    · cases hw
  | reply i => exact (h.reply_iff hw).mpr ha
  | writeFile name file =>
    cases hw
    exact h.of_quiet (.of_eq rfl rfl)
  | wait microseconds =>
    cases hw
    exact h.of_quiet (.of_eq rfl rfl)

lemma DirtyTracked.exists_not (h : w.DirtyTracked) {a : StorageAction}
    (ha : ¬ w.NothingForgotten a) : ∃ w', w.step codec a = some w' ∧ ¬ w'.DirtyTracked := by
  cases a with
  | reply i =>
    cases hw : w.reply i with
    | none => exact absurd (nothingForgotten_of_reply_eq_none hw) ha
    | some w' => exact ⟨w', hw, fun htracked => ha ((h.reply_iff hw).mp htracked)⟩
  | initializeAt answer => exact absurd trivial ha
  | runInitCallback answer => exact absurd trivial ha
  | call call answer => exact absurd trivial ha
  | markDirty origin => exact absurd trivial ha
  | setSessionName sessionName => exact absurd trivial ha
  | runTask i deleteOk moveOk => exact absurd trivial ha
  | writeFile name file => exact absurd trivial ha
  | wait microseconds => exact absurd trivial ha

/-- **Dirty tracking of the storage state**: in a run of a new manager every state is tracked if and
only if no reply of a successful rename or clear comes behind a modification that has not been
saved.

**Proof sketch.** The flag is set by every modification, and cleared by a save, behind its flush,
and by those replies. -/
theorem dirtyTracked_iff (codec : JsonCodec) (directory : SessionsDirectory) (journalDisk : Disk)
    (now : Int) (actions : List StorageAction) :
    Always (step codec) DirtyTracked (start directory journalDisk now) actions ↔
      Along (step codec) NothingForgotten (start directory journalDisk now) actions := by
  refine Along.iff_always (I := fun _ => True)
    (fun w a w' _ h ha hw => ⟨trivial, h.step ha hw⟩) (fun w a _ h ha => h.exists_not ha) actions _
    trivial ⟨Bool.noConfusion, fun earlier hsuffix => ?_⟩
  exact absurd (suffix_nil.mp hsuffix) (cons_ne_nil _ _)

/-- Something is modified, a clear of the missing file `a.json` succeeds, and the next save is
skipped. -/
theorem clear_forgets_modification : ¬ ∀ (codec : JsonCodec) (directory : SessionsDirectory)
    (journalDisk : Disk) (now : Int) (actions : List StorageAction),
      Always (step codec) DirtyTracked (start directory journalDisk now) actions := by
  intro h
  have htracked := h (.ofTable [] JsonCodec.tableLaws_nil) ⟨"/home/u", true, []⟩
    (fun _ => none) 0
    [.initializeAt {}, .markDirty "", .call ⟨.clear "a.json", true⟩ {},
      .runTask 0 (fun _ => true) true, .reply 0] 5 _ rfl
  exact absurd (htracked.clean (by decide +kernel)) (by decide +kernel)

end StorageWorld

end CefCore.Browser
