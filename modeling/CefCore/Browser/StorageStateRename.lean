import CefCore.Browser.StorageStateManager

/-!
# What renaming a state file does to the other ones

`RenameStateOnBlockingThread` of `libcef/browser/storage_state_manager_impl.cc` looks for the file
that is to be renamed, but not for one that has the new name: `base::Move` replaces it.

## Main results

* `renamedSafely_iff`: when no other file is lost.
-/

namespace CefCore.Browser

open Option

namespace SessionsDirectory

variable {d : SessionsDirectory} {name name' : String}

def contentsOf (d : SessionsDirectory) (name : String) : Option Bytes :=
  (d.lookup name).map StateFile.contents

lemma lookup_put (d : SessionsDirectory) (name : FilePath.Name) (file : StateFile)
    (name' : String) :
    (d.put name file).lookup name' = if name' = name.val then some file else d.lookup name' := by
  by_cases h : name' = name.val
  · simp [lookup, put, h]
  · have hremove := lookup_remove d name.val name'
    rw [if_neg h] at hremove ⊢
    rw [← hremove]
    simp [lookup, put, Ne.symm h]

end SessionsDirectory

open SessionsDirectory

def renamedTo (oldPath newName : String) : String := newName ++ renamedExtension oldPath

/-- Renaming fails and leaves all files alone, or moves the contents of the file to its new name and
keeps every other state file that there was. -/
def RenamedSafely (d : SessionsDirectory) (oldPath newName : String) (moveOk : Bool) : Prop :=
  (renameState d oldPath newName moveOk).1.success = false ∧
      (renameState d oldPath newName moveOk).2 = d ∨
    (renameState d oldPath newName moveOk).1.success = true ∧
      (∃ file, d.lookup (FilePath.baseName oldPath) = some file ∧
        (renameState d oldPath newName moveOk).2.lookup (renamedTo oldPath newName) = some file) ∧
      (FilePath.baseName oldPath ≠ renamedTo oldPath newName →
        (renameState d oldPath newName moveOk).2.lookup (FilePath.baseName oldPath) = none) ∧
      ∀ name, isStateFile name = true → name ≠ FilePath.baseName oldPath → d.lookup name ≠ none →
        (renameState d oldPath newName moveOk).2.contentsOf name = d.contentsOf name

structure Renames (d : SessionsDirectory) (oldPath newName : String) (file : StateFile) : Prop where
  path_ne : oldPath ≠ ""
  name_ne : newName ≠ ""
  valid : isValidSessionName newName = true
  found : d.lookup (FilePath.baseName oldPath) = some file

/-- Another file, with other contents, has the new name. -/
def ReplacesAnother (d : SessionsDirectory) (oldPath newName : String) : Prop :=
  ∃ file other, Renames d oldPath newName file ∧
    renamedTo oldPath newName ≠ FilePath.baseName oldPath ∧
    d.lookup (renamedTo oldPath newName) = some other ∧ other.contents ≠ file.contents

variable {d : SessionsDirectory} {oldPath newName : String} {moveOk : Bool}

lemma renameState_cases (d : SessionsDirectory) (oldPath newName : String) (moveOk : Bool) :
    ((renameState d oldPath newName moveOk).1.success = false ∧
        (renameState d oldPath newName moveOk).2 = d ∧
        (moveOk = false ∨ ∀ file, ¬ Renames d oldPath newName file)) ∨
      ∃ file, Renames d oldPath newName file ∧ moveOk = true ∧
        (renameState d oldPath newName moveOk).1.success = true ∧
        ∀ name, (renameState d oldPath newName moveOk).2.lookup name =
          if name = renamedTo oldPath newName then some file
          else if name = FilePath.baseName oldPath then none
          else d.lookup name := by
  unfold renameState
  split
  · rename_i hpath
    exact .inl ⟨rfl, rfl, .inr fun file h => h.path_ne hpath⟩
  · split
    · rename_i hname
      exact .inl ⟨rfl, rfl, .inr fun file h => h.name_ne hname⟩
    · split
      · rename_i hpath hname hvalid
        cases hfound : d.lookup (FilePath.baseName oldPath) with
        | none =>
          refine .inl ⟨rfl, rfl, .inr fun file h => ?_⟩
          rw [h.found] at hfound
          cases hfound
        | some file =>
          cases moveOk with
          | false => exact .inl ⟨rfl, rfl, .inl rfl⟩
          | true =>
            refine .inr ⟨file, ⟨hpath, hname, hvalid, hfound⟩, rfl, rfl, fun name => ?_⟩
            refine (lookup_put _ _ file name).trans ?_
            rw [lookup_remove]
            rfl
      · rename_i hvalid
        exact .inl ⟨rfl, rfl, .inr fun file h => hvalid h.valid⟩

lemma isStateFile_renamedTo (hvalid : isValidSessionName newName = true) :
    isStateFile (renamedTo oldPath newName) = true := by
  have hname := isName_append_extension hvalid (isName_renamedExtension oldPath)
  unfold isStateFile renamedTo
  rw [FilePath.baseName_of_isName hname]
  have hsuffix : ∀ extension,
      FilePath.endsWith (newName ++ extension) extension = true := fun extension =>
    List.isSuffixOf_iff_suffix.mpr ⟨newName.toList, String.toList_append.symm⟩
  unfold renamedExtension
  split
  · rw [hsuffix, Bool.or_true]
  · rw [hsuffix, Bool.true_or]

/-- **When renaming is safe**: exactly if it does not come to moving a file onto another one with
other contents. -/
theorem renamedSafely_iff (d : SessionsDirectory) (path newName : String) (moveOk : Bool) :
    RenamedSafely d (resolveManagedStatePath d.path path) newName moveOk ↔
      ¬ (moveOk = true ∧ ReplacesAnother d (resolveManagedStatePath d.path path) newName) := by
  generalize resolveManagedStatePath d.path path = oldPath
  rcases renameState_cases d oldPath newName moveOk with
    ⟨hfail, hsame, hnot⟩ | ⟨file, hrenames, rfl, hok, hlookup⟩
  · refine iff_of_true (.inl ⟨hfail, hsame⟩) ?_
    rintro ⟨rfl, file, other, hrenames, -⟩
    rcases hnot with hnot | hnot
    · cases hnot
    · exact hnot file hrenames
  · constructor
    · rintro (⟨hfail, -⟩ | ⟨-, -, -, hothers⟩) ⟨-, file', other, hrenames', hne, hother, hcontents⟩
      · rw [hok] at hfail
        cases hfail
      · obtain rfl : file = file' := some.inj (hrenames.found.symm.trans hrenames'.found)
        have hkept := hothers _ (isStateFile_renamedTo hrenames.valid) hne (by simp [hother])
        simp only [contentsOf, hlookup, if_pos, hother, map_some, some.injEq] at hkept
        exact hcontents hkept.symm
    · intro hnot
      refine .inr ⟨hok, ⟨file, hrenames.found, by rw [hlookup, if_pos rfl]⟩,
        fun hne => by rw [hlookup, if_neg hne, if_pos rfl], fun name _ hne hthere => ?_⟩
      rw [contentsOf, hlookup, contentsOf, if_neg hne]
      split
      · rename_i heq
        subst heq
        obtain ⟨other, hother⟩ := ne_none_iff_exists'.mp hthere
        rw [hother, map_some, map_some, some.injEq]
        by_contra hcontents
        exact hnot ⟨rfl, file, other, hrenames, hne, hother, Ne.symm hcontents⟩
      · rfl

lemma isName_aJson : FilePath.IsName "a.json" := by decide

def twoFiles : SessionsDirectory :=
  ⟨"/home/u", true, [(⟨"a.json", isName_aJson⟩, ⟨[1], 0⟩), (⟨"b.json", by decide⟩, ⟨[2], 0⟩)]⟩

/-- Renaming the one to the name of the other destroys this one. -/
theorem rename_destroys_other :
    ¬ RenamedSafely twoFiles (resolveManagedStatePath twoFiles.path "a.json") "b" true := by
  rintro (⟨hfail, -⟩ | ⟨-, -, -, hothers⟩)
  · revert hfail
    decide
  · have hkept := hothers "b.json" (by decide) (by decide) (by decide)
    revert hkept
    decide

end CefCore.Browser
