import CefCore.Foundations.FilePath
import CefCore.Foundations.Script
import Mathlib.Logic.Function.Basic

/-!
# Scripts on files

The operations of a program that reads and writes files. What the operating system decides — whether
an operation succeeds, what a failed write leaves behind, in which order a directory is listed, which
bytes are random — is in a sequence of answers, one for each operation.

## Main definitions

* `FileOp`, `FileScript`: operations on files, and scripts of them.
-/

/-- What the operating system decides about one operation. If a write fails, `leftover` is what it
leaves in the file, or `none` if it leaves the file alone. -/
structure FileAnswer where
  ok : Bool := true
  leftover : Option (List UInt8) := none
  listing : List String := []
  random : Nat → UInt8 := fun _ => 0

/-- The files by path, the directories, the environment variables, and the answers to come. -/
structure FileWorld where
  files : String → Option (List UInt8)
  directories : List String
  environment : String → Option (List UInt8)
  answers : Nat → FileAnswer

inductive FileOp where
  | readFile (path : String)
  | writeFile (path : String) (contents : List UInt8)
  | deleteFile (path : String)
  | createDirectory (path : String)
  | pathExists (path : String)
  | enumerate (directory : String)
  | getVar (name : String)
  | randBytes (n : Nat)

abbrev FileOp.Result : FileOp → Type
  | readFile _ => Option (List UInt8)
  | writeFile _ _ => Bool
  | deleteFile _ => Bool
  | createDirectory _ => Bool
  | pathExists _ => Bool
  | enumerate _ => List String
  | getVar _ => Option (List UInt8)
  | randBytes _ => List UInt8

open FileOp Script

namespace FileWorld

def answer (w : FileWorld) : FileAnswer := w.answers 0

def next (w : FileWorld) : FileWorld := { w with answers := fun n => w.answers (n + 1) }

def calm (w : FileWorld) : FileWorld := { w with answers := fun _ => {} }

def setFile (w : FileWorld) (path : String) (contents : Option (List UInt8)) : FileWorld :=
  { w with files := Function.update w.files path contents }

variable (w : FileWorld)

@[simp] lemma next_files : w.next.files = w.files := rfl

@[simp] lemma next_directories : w.next.directories = w.directories := rfl

@[simp] lemma next_environment : w.next.environment = w.environment := rfl

@[simp] lemma next_answers (n : Nat) : w.next.answers n = w.answers (n + 1) := rfl

@[simp] lemma calm_files : w.calm.files = w.files := rfl

@[simp] lemma calm_environment : w.calm.environment = w.environment := rfl

@[simp] lemma setFile_files_self (path : String) (contents : Option (List UInt8)) :
    (w.setFile path contents).files path = contents := Function.update_self ..

lemma setFile_files_of_ne {path path' : String} (h : path' ≠ path)
    (contents : Option (List UInt8)) : (w.setFile path contents).files path' = w.files path' :=
  Function.update_of_ne h ..

end FileWorld

def FileOp.run : (op : FileOp) → FileWorld → op.Result × FileWorld
  | .readFile path, w => (if w.answer.ok then w.files path else none, w.next)
  | .writeFile path contents, w =>
    if w.answer.ok then (true, w.next.setFile path (some contents))
    else
      match w.answer.leftover with
      | none => (false, w.next)
      | some rest => (false, w.next.setFile path (some rest))
  | .deleteFile path, w =>
    if w.answer.ok then (true, w.next.setFile path none) else (false, w.next)
  | .createDirectory path, w =>
    if w.answer.ok then (true, { w.next with directories := w.directories.insert path })
    else (false, w.next)
  | .pathExists path, w => (path ∈ w.directories || (w.files path).isSome, w.next)
  | .enumerate directory, w =>
    (w.answer.listing.filter fun path => FilePath.dirName path = directory && (w.files path).isSome,
      w.next)
  | .getVar name, w => (w.environment name, w.next)
  | .randBytes n, w => ((List.range n).map w.answer.random, w.next)

abbrev FileScript (α : Type) := Script FileOp Result α

namespace FileScript

def readFileToString (path : String) : FileScript (Option (List UInt8)) :=
  perform (readFile path)

def writeFile (path : String) (contents : List UInt8) : FileScript Bool :=
  perform (FileOp.writeFile path contents)

def deleteFile (path : String) : FileScript Bool := perform (FileOp.deleteFile path)

def createDirectory (path : String) : FileScript Bool := perform (FileOp.createDirectory path)

def pathExists (path : String) : FileScript Bool := perform (FileOp.pathExists path)

/-- The paths that a `base::FileEnumerator` comes by. -/
def enumerate (directory : String) : FileScript (List String) :=
  perform (FileOp.enumerate directory)

def getVar (name : String) : FileScript (Option (List UInt8)) :=
  perform (FileOp.getVar name)

def randBytes (n : Nat) : FileScript (List UInt8) := perform (FileOp.randBytes n)

end FileScript

namespace FileOp

variable {w : FileWorld}

@[simp] lemma run_environment (op : FileOp) (w : FileWorld) :
    (op.run w).2.environment = w.environment := by
  cases op with
  | readFile path => rfl
  | writeFile path contents =>
    simp only [run]
    split
    · rfl
    · split <;> rfl
  | deleteFile path =>
    simp only [run]
    split <;> rfl
  | createDirectory path =>
    simp only [run]
    split <;> rfl
  | pathExists path => rfl
  | enumerate directory => rfl
  | getVar name => rfl
  | randBytes n => rfl

/-- **What a write does**: it succeeds, it fails and leaves the file alone, or it fails and leaves
something else in the file. -/
lemma run_writeFile_cases (path : String) (contents : List UInt8) (w : FileWorld) :
    w.answer.ok = true ∧
        (writeFile path contents).run w = (true, w.next.setFile path (some contents)) ∨
      w.answer.ok = false ∧ w.answer.leftover = none ∧
        (writeFile path contents).run w = (false, w.next) ∨
      ∃ rest, w.answer.ok = false ∧ w.answer.leftover = some rest ∧
        (writeFile path contents).run w = (false, w.next.setFile path (some rest)) := by
  simp only [run]
  split
  · rename_i hok
    exact .inl ⟨hok, rfl⟩
  · rename_i hok
    split
    · rename_i hnone
      exact .inr (.inl ⟨by simpa using hok, hnone, rfl⟩)
    · rename_i rest hsome
      exact .inr (.inr ⟨rest, by simpa using hok, hsome, rfl⟩)

lemma run_deleteFile_cases (path : String) (w : FileWorld) :
    (deleteFile path).run w = (true, w.next.setFile path none) ∨
      (deleteFile path).run w = (false, w.next) := by
  simp only [run]
  split
  · exact .inl rfl
  · exact .inr rfl

/-- A write that fails leaves the file alone. -/
def Whole : FileOp → FileWorld → Prop
  | writeFile _ _, w => w.answer.ok = true ∨ w.answer.leftover = none
  | _, _ => True

def target : FileOp → Option String
  | writeFile path _ => some path
  | deleteFile path => some path
  | _ => none

def touched : FileOp → Option String
  | readFile path => some path
  | writeFile path _ => some path
  | deleteFile path => some path
  | createDirectory path => some path
  | pathExists path => some path
  | enumerate directory => some directory
  | getVar _ => none
  | randBytes _ => none

lemma run_files_of_target_ne {op : FileOp} {path : String} (h : op.target ≠ some path)
    (w : FileWorld) : (op.run w).2.files path = w.files path := by
  cases op with
  | readFile path' => rfl
  | writeFile path' contents =>
    have hne : path ≠ path' := fun heq => h (heq ▸ rfl)
    simp only [run]
    split
    · exact w.next.setFile_files_of_ne hne _
    · split
      · rfl
      · exact w.next.setFile_files_of_ne hne _
  | deleteFile path' =>
    have hne : path ≠ path' := fun heq => h (heq ▸ rfl)
    simp only [run]
    split
    · exact w.next.setFile_files_of_ne hne _
    · rfl
  | createDirectory path' =>
    simp only [run]
    split <;> rfl
  | pathExists path' => rfl
  | enumerate directory => rfl
  | getVar name => rfl
  | randBytes n => rfl

lemma run_files_ne_none {op : FileOp} (h : ∀ path, op ≠ deleteFile path) {w : FileWorld}
    {path : String} (hpath : w.files path ≠ none) : (op.run w).2.files path ≠ none := by
  cases op with
  | writeFile path' contents =>
    by_cases heq : path = path'
    · subst heq
      rcases run_writeFile_cases path contents w with ⟨-, hrun⟩ | ⟨-, -, hrun⟩ | ⟨_, -, -, hrun⟩
      · simp [hrun]
      · simpa [hrun] using hpath
      · simp [hrun]
    · rw [run_files_of_target_ne (by simpa [target] using Ne.symm heq)]
      exact hpath
  | deleteFile path' => exact absurd rfl (h path')
  | createDirectory path' =>
    rw [run_files_of_target_ne (by simp [target])]
    exact hpath
  | readFile path' => exact hpath
  | pathExists path' => exact hpath
  | enumerate directory => exact hpath
  | getVar name => exact hpath
  | randBytes n => exact hpath

lemma length_randBytes (n : Nat) (w : FileWorld) : ((randBytes n).run w).1.length = n := by
  simp [run]

end FileOp

@[simp] lemma FileScript.exec_environment {α : Type} : ∀ (p : FileScript α) (w : FileWorld),
    (exec run p w).2.environment = w.environment
  | .done _, _ => rfl
  | .call op next, w => by
    rw [exec_call, exec_environment (next (op.run w).1) (op.run w).2, run_environment]

theorem FileScript.exec_files_of_all {α : Type} {p : FileScript α} {path : String}
    (h : p.All fun op => op.target ≠ some path) (w : FileWorld) :
    (exec run p w).2.files path = w.files path :=
  All.invariant (I := fun w' => w'.files path = w.files path)
    (fun _ w' hI hop => (run_files_of_target_ne hop w').trans hI) p w rfl h
