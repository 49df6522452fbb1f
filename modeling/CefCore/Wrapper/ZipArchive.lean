import CefCore.Foundations.StateTransition
import CefCore.Wrapper.ZipReader
import Mathlib.Data.List.AList

/-!
# The zip archive in Rust

`ZipArchive` of `wrapper/zip_archive.rs`. Loading goes through the entries of an archive in one loop,
and a loop in it reads each file. Both are run step by step.

## Main results

* `loadsFiles_iff`: when the files of the archive are loaded.

## Implementation notes

* The assertion that a file has the size that it is said to have is not part of release builds.
* No call panics while it holds the lock of `contents`, so nothing is said about a poisoned lock.
* A file of the map is its data.
-/

namespace CefCore.Wrapper

open List StateTransition ZipReader AList

/-! ### What a file delivers until it ends -/

namespace ZipEntry

variable {e : ZipEntry} {size : Nat}

/-- Reading is over after `k` calls: the bytes are complete, the file ends, or the next call returns
no bytes. -/
def Stops (e : ZipEntry) (size k : Nat) : Prop :=
  size ≤ (e.readOut size k).length ∨ e.eof k = true ∨
    (e.answers k).result (size - (e.readOut size k).length) ≤ 0

instance : DecidablePred (e.Stops size) := fun _ => inferInstanceAs (Decidable (_ ∨ _))

lemma le_length_readOut : ∀ {k : Nat}, (∀ j < k, ¬ e.Stops size j) → k ≤ (e.readOut size k).length
  | 0, _ => Nat.zero_le _
  | k + 1, h => by
    have hk : k ≤ (e.readOut size k).length :=
      le_length_readOut fun j hj => h j (hj.trans (Nat.lt_succ_self k))
    have hnot := h k (Nat.lt_succ_self k)
    rw [Stops, not_or, not_or, Int.not_le] at hnot
    have hput : (e.answers k).put (size - (e.readOut size k).length) ≠ [] := by
      intro hnil
      cases herror : (e.answers k).isError with
      | true => exact absurd hnot.2.2 (ReadAnswer.result_neg herror _).le.not_gt
      | false =>
        rw [ReadAnswer.result_eq_length herror, hnil] at hnot
        exact absurd hnot.2.2 (lt_irrefl _)
    have hlength := length_pos_iff.mpr hput
    rw [readOut, length_append]
    omega

lemma exists_stops (e : ZipEntry) (size : Nat) : ∃ k, e.Stops size k := by
  by_contra h
  push Not at h
  have hle : size + 1 ≤ (e.readOut size (size + 1)).length := le_length_readOut fun j _ => h j
  exact absurd (hle.trans (length_readOut_le _)) (Nat.not_succ_le_self size)

/-- The bytes that the file delivers until reading is over. -/
def data (e : ZipEntry) : List UInt8 :=
  e.readOut e.fileSize.toNat (Nat.find (e.exists_stops e.fileSize.toNat))

end ZipEntry

/-- `FileMap`: the data of files by name. -/
abbrev FileMap := AList fun _ : String => List UInt8

/-- `ZipArchive`: all names are in lower case. -/
structure ZipArchive (lower : Lowercase) where
  contents : FileMap := ∅
  lowered : ∀ key ∈ contents, lower.toLower key = key

namespace ZipArchive

variable {lower : Lowercase}

def file (a : ZipArchive lower) (name : String) : Option (List UInt8) := a.contents.lookup name

/-- Where `load` is: at the head of the outer loop, at the head of the inner one, or at its end. -/
inductive LoadState where
  | head (reader : ZipReader) (contents : FileMap) (count : Nat)
  | reading (reader : ZipReader) (contents : FileMap) (count : Nat) (name : String) (size : Nat)
      (data : List UInt8)
  | done (contents : FileMap) (count : Nat)

/-- `ZipArchive::load` as far as its outer loop. -/
def load (a : ZipArchive lower) (stream : Option (List ZipEntry)) : LoadState :=
  match stream.map ZipReader.create with
  | none => .done a.contents 0
  | some reader => .head reader a.contents 0

/-- The end of the body of the outer loop, behind the inner one. -/
def storeFile (reader : ZipReader) (contents : FileMap) (count : Nat) (name : String)
    (data : List UInt8) : LoadState :=
  let reader := reader.closeFile
  let count := count + 1
  let contents := contents.insert name data
  let (moved, reader) := reader.moveToNextFile
  if !moved then .done contents count else .head reader contents count

/-- What `load` does from one head of a loop to the next. -/
def step (lower : Lowercase) (password : String) (overwriteExisting : Bool) :
    LoadState → Option LoadState
  | .head reader contents count =>
    let size := reader.getFileSize
    if size ≤ 0 then some (.head reader contents count)
    else
      let (opened, reader) := reader.openFile password
      if !opened then some (.done contents count)
      else
        let name := lower.toLower reader.getFileName
        if name ∈ contents then
          if overwriteExisting then
            some (.reading reader (contents.erase name) count name size.toNat [])
          else some (.head reader contents count)
        else some (.reading reader contents count name size.toNat [])
  | .reading reader contents count name size data =>
    if data.length < size ∧ reader.eof = false then
      let ((read, chunk), reader) := reader.readFile (size - data.length)
      if read ≤ 0 then some (storeFile reader contents count name data)
      else some (.reading reader contents count name size (data ++ chunk))
    else some (storeFile reader contents count name data)
  | .done _ _ => none

/-! ### What loading is for -/

/-- The entries before the first one that cannot be opened. -/
def reached (entries : List ZipEntry) (password : String) : List ZipEntry :=
  entries.takeWhile fun e => e.fileSize ≤ 0 || e.opens password

def files (entries : List ZipEntry) (password : String) : List ZipEntry :=
  (reached entries password).filter fun e => 0 < e.fileSize

/-- A file is stored, unless there is one of its name which is not to be replaced. -/
def storeEntry (lower : Lowercase) (overwriteExisting : Bool)
    (s : (String → Option (List UInt8)) × Nat) (e : ZipEntry) :
    (String → Option (List UInt8)) × Nat :=
  if overwriteExisting = true ∨ s.1 (lower.toLower e.fileName) = none then
    (Function.update s.1 (lower.toLower e.fileName) (some e.data), s.2 + 1)
  else s

/-- What is stored in the end, and how many files have been. -/
def stored (lower : Lowercase) (overwriteExisting : Bool)
    (s : (String → Option (List UInt8)) × Nat) (entries : List ZipEntry) :
    (String → Option (List UInt8)) × Nat :=
  entries.foldl (storeEntry lower overwriteExisting) s

/-- Loading ends, the files of the archive are stored and counted, and each file that there is in the
end is found under every spelling of its name. -/
def LoadsFiles (a : ZipArchive lower) (entries : List ZipEntry) (password : String)
    (overwriteExisting : Bool) : Prop :=
  ∃ (a' : ZipArchive lower) (count : Nat), .done a'.contents count ∈
      eval (step lower password overwriteExisting) (a.load (some entries)) ∧
    (fun key => a'.contents.lookup key, count) =
      stored lower overwriteExisting (fun key => a.contents.lookup key, 0)
        (files entries password) ∧
    ∀ name, lower.toLower name ∈ a'.contents →
      a'.file name = a'.contents.lookup (lower.toLower name)

structure Loadable (a : ZipArchive lower) (entries : List ZipEntry) (password : String)
    (overwriteExisting : Bool) : Prop where
  /-- There is a first entry. -/
  ne_nil : entries ≠ []
  /-- No directory or empty file comes before the first entry that cannot be opened. -/
  no_empty : ∀ e ∈ reached entries password, 0 < e.fileSize
  /-- No file has the name of another one, unless that one is to be replaced. -/
  no_duplicates : overwriteExisting = true ∨
    ((files entries password).map fun e => lower.toLower e.fileName).Nodup ∧
      ∀ e ∈ files entries password, lower.toLower e.fileName ∉ a.contents
  /-- The names are in lower case in all their spellings. -/
  one_spelling : ∀ name, (lower.toLower name ∈ a.contents ∨
    ∃ e ∈ files entries password, lower.toLower e.fileName = lower.toLower name) →
      lower.toLower name = name

/-! ### The inner loop -/

variable {password name : String} {overwriteExisting : Bool} {archive rest : List ZipEntry}
  {e : ZipEntry} {fileOpen : Option Nat} {contents : FileMap} {count size : Nat}

/-- Where `load` goes on behind a file: at the next entry, if there is one. -/
def next (archive : List ZipEntry) (contents : FileMap) (count : Nat) : List ZipEntry → LoadState
  | [] => .done contents count
  | e :: rest => .head ⟨archive, e :: rest, none⟩ contents count

lemma storeFile_eq {data : List UInt8} :
    storeFile ⟨archive, e :: rest, fileOpen⟩ contents count name data =
      next archive (contents.insert name data) (count + 1) rest := by
  cases rest with
  | nil => rfl
  | cons e' rest => rfl

/-- The head of the inner loop after `k` calls of `ReadFile`. -/
def readingAt (archive : List ZipEntry) (e : ZipEntry) (rest : List ZipEntry) (contents : FileMap)
    (count : Nat) (name : String) (size k : Nat) : LoadState :=
  .reading ⟨archive, e :: rest, some k⟩ contents count name size (e.readOut size k)

lemma step_readingAt (k : Nat) :
    step lower password overwriteExisting (readingAt archive e rest contents count name size k) =
      some (if e.Stops size k then
        next archive (contents.insert name (e.readOut size k)) (count + 1) rest
      else readingAt archive e rest contents count name size (k + 1)) := by
  simp only [step, readingAt, eof_cons, readFile_cons, storeFile_eq]
  by_cases hround : (e.readOut size k).length < size ∧ e.eof k = false
  · rw [if_pos hround]
    obtain ⟨hlength, heof⟩ := hround
    by_cases hread : (e.answers k).result (size - (e.readOut size k).length) ≤ 0
    · rw [if_pos hread, if_pos (.inr (.inr hread))]
    · have hnot : ¬ e.Stops size k := by
        rintro (hsize | hend | hzero)
        · exact absurd hsize hlength.not_ge
        · rw [heof] at hend
          cases hend
        · exact hread hzero
      rw [if_neg hread, if_neg hnot, ZipEntry.readOut]
  · have hstops : e.Stops size k := by
      rw [not_and_or, not_lt, Bool.not_eq_false] at hround
      exact hround.imp_right .inl
    rw [if_neg hround, if_pos hstops]

/-- **The inner loop** reads what the file delivers until reading is over.

**Proof sketch.** Induction on the number of calls that are still to come. -/
lemma eval_readingAt {k : Nat} (hstop : e.Stops size k) (hfirst : ∀ j < k, ¬ e.Stops size j) :
    ∀ {j : Nat}, j ≤ k →
      eval (step lower password overwriteExisting)
          (readingAt archive e rest contents count name size j) =
        eval (step lower password overwriteExisting)
          (next archive (contents.insert name (e.readOut size k)) (count + 1) rest) := by
  intro j hj
  induction hj using Nat.decreasingInduction with
  | self =>
    refine eval_of_step ?_
    rw [step_readingAt, if_pos hstop]
  | of_succ j hj ih =>
    rw [← ih]
    refine eval_of_step ?_
    rw [step_readingAt, if_neg (hfirst j hj)]

lemma eval_reading :
    eval (step lower password overwriteExisting)
        (.reading ⟨archive, e :: rest, some 0⟩ contents count name e.fileSize.toNat []) =
      eval (step lower password overwriteExisting)
        (next archive (contents.insert name e.data) (count + 1) rest) :=
  eval_readingAt (Nat.find_spec (e.exists_stops _)) (fun _ => Nat.find_min (e.exists_stops _))
    (Nat.zero_le _)

/-! ### The outer loop -/

variable {entries : List ZipEntry} {s : LoadState}

lemma not_mem_eval_of_empty {reader : ZipReader} (h : reader.getFileSize ≤ 0) :
    s ∉ eval (step lower password overwriteExisting) (.head reader contents count) := by
  refine not_mem_eval_of_invariant (I := (· = .head reader contents count)) ?_ rfl
  rintro _ rfl
  exact ⟨_, if_pos h, rfl⟩

lemma step_of_not_opens (hsize : 0 < e.fileSize) (hopens : e.opens password = false) :
    step lower password overwriteExisting (.head ⟨archive, e :: rest, fileOpen⟩ contents count) =
      some (.done contents count) := by
  simp only [step, getFileSize_cons, openFile_of_not_opens hopens]
  rw [if_neg hsize.not_ge, Bool.not_false, if_pos rfl]

lemma step_of_opens (hsize : 0 < e.fileSize) (hopens : e.opens password = true) :
    step lower password overwriteExisting (.head ⟨archive, e :: rest, fileOpen⟩ contents count) =
      if lower.toLower e.fileName ∈ contents then
        if overwriteExisting then
          some (.reading ⟨archive, e :: rest, some 0⟩
            (contents.erase (lower.toLower e.fileName)) count (lower.toLower e.fileName)
            e.fileSize.toNat [])
        else some (.head ⟨archive, e :: rest, some 0⟩ contents count)
      else some (.reading ⟨archive, e :: rest, some 0⟩ contents count (lower.toLower e.fileName)
        e.fileSize.toNat []) := by
  simp only [step, getFileSize_cons, openFile_of_opens hopens, getFileName_cons]
  rw [if_neg hsize.not_ge, Bool.not_true, if_neg Bool.false_ne_true]

/-- **The loop spins** at a file whose name is there already and not to be replaced. -/
lemma not_mem_eval_of_duplicate (hsize : 0 < e.fileSize)
    (hopens : e.opens password = true) (hmem : lower.toLower e.fileName ∈ contents) :
    s ∉ eval (step lower password false) (.head ⟨archive, e :: rest, fileOpen⟩ contents count) := by
  refine not_mem_eval_of_invariant
    (I := fun s => ∃ o, s = .head ⟨archive, e :: rest, o⟩ contents count) ?_ ⟨_, rfl⟩
  rintro _ ⟨o, rfl⟩
  exact ⟨_, by rw [step_of_opens hsize hopens, if_pos hmem, if_neg Bool.false_ne_true], _, rfl⟩

lemma insert_erase (m : FileMap) (name : String) (data : List UInt8) :
    (m.erase name).insert name data = m.insert name data := by
  refine AList.ext ?_
  have hkerase : (m.entries.kerase name).kerase name = m.entries.kerase name :=
    kerase_of_notMem_keys (notMem_keys_kerase name m.nodupKeys)
  exact congrArg (⟨name, data⟩ :: ·) hkerase

lemma eval_of_stored (hsize : 0 < e.fileSize) (hopens : e.opens password = true)
    (hmem : overwriteExisting = true ∨ lower.toLower e.fileName ∉ contents) :
    eval (step lower password overwriteExisting)
        (.head ⟨archive, e :: rest, fileOpen⟩ contents count) =
      eval (step lower password overwriteExisting)
        (next archive (contents.insert (lower.toLower e.fileName) e.data) (count + 1) rest) := by
  by_cases hname : lower.toLower e.fileName ∈ contents
  · rw [eval_of_step ((step_of_opens hsize hopens).trans ((if_pos hname).trans
        (if_pos (hmem.resolve_right (not_not_intro hname))))), eval_reading, insert_erase]
  · rw [eval_of_step ((step_of_opens hsize hopens).trans (if_neg hname)), eval_reading]

lemma reached_of_opens (hopens : e.opens password = true) :
    reached (e :: entries) password = e :: reached entries password := by
  rw [reached, takeWhile_cons_of_pos (by rw [hopens, Bool.or_true]), reached]

lemma reached_of_not_opens (hsize : 0 < e.fileSize)
    (hopens : e.opens password = false) : reached (e :: entries) password = [] := by
  rw [reached, takeWhile_cons_of_neg]
  simp [hopens, hsize]

lemma reached_of_empty (hsize : e.fileSize ≤ 0) :
    reached (e :: entries) password = e :: reached entries password := by
  rw [reached, takeWhile_cons_of_pos (by simp [hsize]), reached]

lemma files_of_opens (hsize : 0 < e.fileSize) (hopens : e.opens password = true) :
    files (e :: entries) password = e :: files entries password := by
  rw [files, reached_of_opens hopens, filter_cons_of_pos (by simpa using hsize), files]

lemma files_of_not_opens (hsize : 0 < e.fileSize)
    (hopens : e.opens password = false) : files (e :: entries) password = [] := by
  rw [files, reached_of_not_opens hsize hopens, filter_nil]

def Passes (lower : Lowercase) (password : String) (overwriteExisting : Bool)
    (entries : List ZipEntry) (taken : String → Prop) : Prop :=
  (∀ e ∈ reached entries password, 0 < e.fileSize) ∧
    (overwriteExisting = true ∨
      ((files entries password).map fun e => lower.toLower e.fileName).Nodup ∧
        ∀ e ∈ files entries password, ¬ taken (lower.toLower e.fileName))

lemma passes_cons_iff (hsize : 0 < e.fileSize) (hopens : e.opens password = true)
    (hmem : overwriteExisting = true ∨ lower.toLower e.fileName ∉ contents) {data : List UInt8} :
    Passes lower password overwriteExisting (e :: entries) (· ∈ contents) ↔
      Passes lower password overwriteExisting entries
        (· ∈ contents.insert (lower.toLower e.fileName) data) := by
  have hnames (es : List ZipEntry) :
      (∀ e' ∈ es, lower.toLower e'.fileName ∉ contents.insert (lower.toLower e.fileName) data) ↔
        lower.toLower e.fileName ∉ es.map (fun e => lower.toLower e.fileName) ∧
          ∀ e' ∈ es, lower.toLower e'.fileName ∉ contents := by
    simp only [mem_insert, not_or, mem_map, not_exists, not_and]
    exact forall₂_and
  unfold Passes
  rw [reached_of_opens hopens, files_of_opens hsize hopens, forall_mem_cons,
    forall_mem_cons, map_cons, nodup_cons, hnames]
  tauto

inductive AtEntry (lower : Lowercase) (password : String) (overwriteExisting : Bool)
    (archive : List ZipEntry) (e : ZipEntry) (rest : List ZipEntry) (contents : FileMap)
    (count : Nat) (run : Part LoadState) : Prop
  | empty (hsize : e.fileSize ≤ 0) (hspins : ∀ s, s ∉ run)
  | unopened (hsize : 0 < e.fileSize) (hopens : e.opens password = false)
      (hends : ∀ s, s ∈ run ↔ s = .done contents count)
  | duplicate (hsize : 0 < e.fileSize) (hopens : e.opens password = true)
      (hover : overwriteExisting = false) (hmem : lower.toLower e.fileName ∈ contents)
      (hspins : ∀ s, s ∉ run)
  | stored (hsize : 0 < e.fileSize) (hopens : e.opens password = true)
      (hmem : overwriteExisting = true ∨ lower.toLower e.fileName ∉ contents)
      (hrun : run = eval (step lower password overwriteExisting)
        (next archive (contents.insert (lower.toLower e.fileName) e.data) (count + 1) rest))

/-- **The loop at an entry** spins, or ends, or stores a file and goes on behind it. -/
lemma atEntry : AtEntry lower password overwriteExisting archive e rest contents count
    (eval (step lower password overwriteExisting) (next archive contents count (e :: rest))) := by
  rw [next]
  by_cases hsize : 0 < e.fileSize
  · cases hopens : e.opens password with
    | false =>
      refine .unopened hsize hopens fun s => ?_
      rw [eval_of_step (step_of_not_opens hsize hopens)]
      exact mem_eval_of_stop rfl
    | true =>
      by_cases hmem : overwriteExisting = true ∨ lower.toLower e.fileName ∉ contents
      · exact .stored hsize hopens hmem (eval_of_stored hsize hopens hmem)
      · rw [not_or, Bool.not_eq_true, not_not] at hmem
        obtain ⟨rfl, hmem⟩ := hmem
        exact .duplicate hsize hopens rfl hmem fun s =>
          not_mem_eval_of_duplicate hsize hopens hmem
  · have hempty : e.fileSize ≤ 0 := Int.not_lt.mp hsize
    exact .empty hempty fun s => not_mem_eval_of_empty hempty

/-- **For which entries the loop ends**: those that are all not empty, and none of which has the name
of another file, unless that one is to be replaced.

**Proof sketch.** Induction on the entries, with the cases of `atEntry`. -/
theorem ends_iff : ∀ {entries : List ZipEntry} {contents : FileMap} {count : Nat},
    (∃ contents' count', .done contents' count' ∈
      eval (step lower password overwriteExisting)
        (next archive contents count entries)) ↔
      Passes lower password overwriteExisting entries (· ∈ contents)
  | [], contents, count => by
    refine iff_of_true ⟨contents, count, ?_⟩ ⟨nofun, .inr ⟨nodup_nil, nofun⟩⟩
    exact (mem_eval_of_stop rfl).mpr rfl
  | e :: entries, contents, count => by
    have hentry : AtEntry lower password overwriteExisting archive e entries contents count _ :=
      atEntry
    cases hentry with
    | empty hsize hspins =>
      refine iff_of_false (fun ⟨_, _, hdone⟩ => hspins _ hdone) ?_
      rintro ⟨hall, _⟩
      refine hsize.not_gt (hall e ?_)
      rw [reached_of_empty hsize]
      exact mem_cons_self
    | unopened hsize hopens hends =>
      refine iff_of_true ⟨contents, count, (hends _).mpr rfl⟩ ?_
      rw [Passes, reached_of_not_opens hsize hopens, files_of_not_opens hsize hopens]
      exact ⟨nofun, .inr ⟨nodup_nil, nofun⟩⟩
    | duplicate hsize hopens hover hmem hspins =>
      subst hover
      refine iff_of_false (fun ⟨_, _, hdone⟩ => hspins _ hdone) ?_
      rintro ⟨_, hfalse | ⟨_, hnot⟩⟩
      · cases hfalse
      · refine hnot e ?_ hmem
        rw [files_of_opens hsize hopens]
        exact mem_cons_self
    | stored hsize hopens hmem hrun =>
      rw [hrun, ends_iff, passes_cons_iff hsize hopens hmem]

lemma lookup_insert_eq_update (m : FileMap) (name : String) (data : List UInt8) :
    (fun key => (m.insert name data).lookup key) =
      Function.update m.lookup name (some data) := by
  funext key
  by_cases hkey : key = name
  · rw [hkey, lookup_insert, Function.update_self]
  · rw [lookup_insert_ne hkey, Function.update_of_ne hkey]

/-- **What is stored** when the loop has ended.

**Proof sketch.** Induction on the entries, with the cases of `atEntry`; the entry at which the loop
ends, and those behind it, are not among the files. -/
theorem stored_of_done : ∀ {entries : List ZipEntry} {contents contents' : FileMap}
    {count count' : Nat}, .done contents' count' ∈
      eval (step lower password overwriteExisting)
        (next archive contents count entries) →
      (fun key => contents'.lookup key, count') =
        stored lower overwriteExisting (fun key => contents.lookup key, count)
          (files entries password)
  | [], contents, contents', count, count', h => by
    rw [next, mem_eval_of_stop rfl] at h
    cases h
    rfl
  | e :: entries, contents, contents', count, count', h => by
    have hentry : AtEntry lower password overwriteExisting archive e entries contents count _ :=
      atEntry
    cases hentry with
    | empty hsize hspins => exact absurd h (hspins _)
    | unopened hsize hopens hends =>
      cases (hends _).mp h
      rw [files_of_not_opens hsize hopens]
      rfl
    | duplicate hsize hopens hover hmem hspins => exact absurd h (hspins _)
    | stored hsize hopens hmem hrun =>
      have hstore : overwriteExisting = true ∨ contents.lookup (lower.toLower e.fileName) = none :=
        hmem.imp_right lookup_eq_none.mpr
      rw [stored_of_done (hrun ▸ h), files_of_opens hsize hopens, lookup_insert_eq_update]
      simp [stored, storeEntry, if_pos hstore]

lemma stored_ne_none_iff {key : String} : ∀ {entries : List ZipEntry}
    {s : (String → Option (List UInt8)) × Nat},
    (stored lower overwriteExisting s entries).1 key ≠ none ↔
      s.1 key ≠ none ∨ ∃ e ∈ entries, lower.toLower e.fileName = key
  | [], s => by simp [stored]
  | e :: entries, s => by
    have hfirst : (storeEntry lower overwriteExisting s e).1 key ≠ none ↔
        s.1 key ≠ none ∨ lower.toLower e.fileName = key := by
      unfold storeEntry
      by_cases hkey : lower.toLower e.fileName = key
      · subst hkey
        split
        · simp
        · rename_i hnot
          simpa using (not_or.mp hnot).2
      · rw [or_iff_left hkey]
        split
        · dsimp only
          rw [Function.update_of_ne (Ne.symm hkey)]
        · rfl
    rw [stored, foldl_cons, ← stored, stored_ne_none_iff, hfirst, exists_mem_cons_iff, or_assoc]

lemma mem_iff_of_done {contents' : FileMap} {count' : Nat} {key : String}
    (h : .done contents' count' ∈
      eval (step lower password overwriteExisting) (next archive contents count entries)) :
    key ∈ contents' ↔
      key ∈ contents ∨ ∃ e ∈ files entries password, lower.toLower e.fileName = key := by
  have hkey : contents'.lookup key = (stored lower overwriteExisting
      (fun key => contents.lookup key, count) (files entries password)).1 key :=
    congrFun (congrArg Prod.fst (stored_of_done h)) key
  rw [← lookup_isSome, ← lookup_isSome, ← Option.ne_none_iff_isSome,
    ← Option.ne_none_iff_isSome, hkey]
  exact stored_ne_none_iff

lemma load_eq_next (a : ZipArchive lower) (h : entries ≠ []) :
    a.load (some entries) = next entries a.contents 0 entries := by
  cases entries with
  | nil => exact absurd rfl h
  | cons e rest => rfl

lemma not_mem_eval_load_nil (a : ZipArchive lower) :
    s ∉ eval (step lower password overwriteExisting) (a.load (some [])) := by
  have hsize : (ZipReader.create []).getFileSize ≤ 0 := by decide
  exact not_mem_eval_of_empty hsize

lemma lowered_of_done (a : ZipArchive lower) {contents' : FileMap}
    {count' : Nat} (h : .done contents' count' ∈
      eval (step lower password overwriteExisting) (next archive a.contents count entries)) :
    ∀ key ∈ contents', lower.toLower key = key := by
  intro key hkey
  rcases (mem_iff_of_done h).mp hkey with hkey | ⟨e, _, rfl⟩
  · exact a.lowered key hkey
  · exact lower.toLower_toLower _

/-- **When loading is right**: there is a first entry, no directory or empty file comes before the
first entry that cannot be opened, no file has the name of another one that is not to be replaced,
and no name can be spelled in another way.

**Proof sketch.** Loading ends under the first three conditions. Files are stored under names in
lower case, so that another spelling is not found. -/
theorem loadsFiles_iff (a : ZipArchive lower) (entries : List ZipEntry) (password : String)
    (overwriteExisting : Bool) :
    LoadsFiles a entries password overwriteExisting ↔
      Loadable a entries password overwriteExisting := by
  constructor
  · rintro ⟨a', count, hdone, _, hfile⟩
    have hne : entries ≠ [] := by
      rintro rfl
      exact not_mem_eval_load_nil a hdone
    rw [load_eq_next a hne] at hdone
    obtain ⟨hsizes, hnames⟩ := ends_iff.mp ⟨_, _, hdone⟩
    refine ⟨hne, hsizes, hnames, fun name hname => ?_⟩
    have hlower : lower.toLower name ∈ a'.contents := (mem_iff_of_done hdone).mpr hname
    have hmem : name ∈ a'.contents := by
      have hlookup : a'.contents.lookup name = a'.contents.lookup (lower.toLower name) :=
        hfile name hlower
      rw [← lookup_isSome, hlookup]
      exact lookup_isSome.mpr hlower
    exact a'.lowered name hmem
  · rintro ⟨hne, hsizes, hnames, hspelling⟩
    have hends : ∃ contents' count', .done contents' count' ∈
        eval (step lower password overwriteExisting)
          (next entries a.contents 0 entries) := ends_iff.mpr ⟨hsizes, hnames⟩
    obtain ⟨contents', count', hdone⟩ := hends
    refine ⟨⟨contents', lowered_of_done a hdone⟩, count', ?_, stored_of_done hdone,
      fun name hname => ?_⟩
    · rw [load_eq_next a hne]
      exact hdone
    · rw [hspelling name ((mem_iff_of_done hdone).mp hname)]
      rfl

def sampleDirectory : ZipEntry where
  fileName := "docs/"
  fileSize := 0
  opens _ := true
  answers _ := .bytes []
  eof _ := true

/-- An archive with a directory is not loaded. -/
theorem not_loadsFiles_directory :
    ¬ LoadsFiles (⟨∅, fun _ h => absurd h (notMem_empty _)⟩ : ZipArchive .ascii)
      [sampleDirectory] "" false := by
  rintro ⟨a', count, hdone, _⟩
  have hsize : (ZipReader.create [sampleDirectory]).getFileSize ≤ 0 := by decide
  exact not_mem_eval_of_empty hsize hdone

end ZipArchive

end CefCore.Wrapper
