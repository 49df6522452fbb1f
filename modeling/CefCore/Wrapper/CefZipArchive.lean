import CefCore.Foundations.MachineInt
import CefCore.Foundations.StateTransition
import CefCore.Wrapper.ZipReader
import Mathlib.Data.List.AList

/-!
# The zip archive in C++

`CefZipArchive::Load` of `libcef_dll/wrapper/cef_zip_archive.cc`, run step by step. The number that
`ReadFile` returns is added to the read offset, whatever it is, and the file is stored when the inner
loop is left, for whatever reason.

## Main results

* `always_sound_iff`: when every file has all of its bytes.

## Implementation notes

* The assertion that the offset is the size is not part of release builds.
* A byte of a file is `none` until one is read into it: `Initialize` does not fill the memory.
* What a call that fails leaves in the buffer is not told.
* `allocates` tells which sizes there is memory for.
-/

namespace CefCore.Wrapper

open MachineInt List Option StateTransition ZipReader ZipEntry StateTransition

namespace CefZipArchive

/-- The data of a `CefZipFile`. -/
abbrev CefZipFile := List (Option UInt8)

abbrev FileMap := AList fun _ : String => CefZipFile

/-- `CefZipFile::Initialize`, where there is memory. -/
def initializeFile (dataSize : Nat) : CefZipFile := List.replicate dataSize none

/-- Bytes are put into the buffer at an offset. -/
def write (file : CefZipFile) (offset : Nat) (bytes : List UInt8) : CefZipFile :=
  file.take offset ++ bytes.map some ++ file.drop (offset + bytes.length)

/-- Where `Load` is: at the start of the outer loop's body, before a call of `ReadFile`, behind the
inner loop, or at its end. -/
inductive LoadState where
  | head (reader : ZipReader) (contents : FileMap) (count : Nat)
  | reading (reader : ZipReader) (contents : FileMap) (count : Nat) (name : String) (size : Nat)
      (file : CefZipFile) (offset : Nat)
  | store (reader : ZipReader) (contents : FileMap) (count : Nat) (name : String) (size : Nat)
      (file : CefZipFile) (offset : Nat)
  | done (contents : FileMap) (count : Nat)

/-- `CefZipArchive::Load` as far as its outer loop. -/
def load (contents : FileMap) (stream : Option (List ZipEntry)) : LoadState :=
  match stream.map ZipReader.create with
  | none => .done contents 0
  | some reader =>
    let (moved, reader) := reader.moveToFirstFile
    if !moved then .done contents 0 else .head reader contents 0

def moveOn (reader : ZipReader) (contents : FileMap) (count : Nat) : LoadState :=
  let (moved, reader) := reader.moveToNextFile
  if moved then .head reader contents count else .done contents count

/-- A file is made, and the inner loop starts. -/
def startReading (allocates : Nat → Bool) (reader : ZipReader) (contents : FileMap) (count : Nat)
    (name : String) (size : Nat) : LoadState :=
  if !allocates size then moveOn reader contents count
  else .reading reader contents count name size (initializeFile size) 0

def readOn (reader : ZipReader) (contents : FileMap) (count : Nat) (name : String) (size : Nat)
    (file : CefZipFile) (offset : Nat) : LoadState :=
  if offset < size ∧ reader.eof = false then .reading reader contents count name size file offset
  else .store reader contents count name size file offset

/-- What `Load` does from one of these places to the next. -/
def step (lower : Lowercase) (password : String) (overwriteExisting : Bool)
    (allocates : Nat → Bool) : LoadState → Option LoadState
  | .head reader contents count =>
    let size := toSizeT reader.getFileSize
    if size = 0 then some (moveOn reader contents count)
    else
      let (opened, reader) := reader.openFile password
      if !opened then some (.done contents count)
      else
        let name := lower.toLower reader.getFileName
        if name ∈ contents then
          if overwriteExisting then
            some (startReading allocates reader (contents.erase name) count name size)
          else some (moveOn reader contents count)
        else some (startReading allocates reader contents count name size)
  | .reading reader contents count name size file offset =>
    let ((read, bytes), reader) := reader.readFile (size - offset)
    let file := write file offset bytes
    let offset := (offset + toSizeT read) % 2 ^ 64
    some (readOn reader contents count name size file offset)
  | .store reader contents count name _ file _ =>
    -- no file of this name is there, so that the insertion is not without effect
    some (moveOn reader.closeFile (contents.insert name file) (count + 1))
  | .done _ _ => none

end CefZipArchive

/-! ### What is asked -/

def ZipReader.delivered (r : ZipReader) (size : Nat) : List UInt8 :=
  match r.fileOpen, r.cursor with
  | some calls, e :: _ => e.readOut size calls
  | _, _ => []

/-- No call on the open file has failed. -/
def ZipReader.NoError (r : ZipReader) : Prop :=
  ∀ calls ∈ r.fileOpen, ∀ e ∈ r.cursor.head?, ∀ k < calls, (e.answers k).isError = false

namespace CefZipArchive

/-- The offset is the number of bytes that have been delivered, and not above the size. A file that is
about to be stored has all the bytes that it is said to have, which are those that have been delivered,
and no call has failed. -/
def Sound : LoadState → Prop
  | .reading reader _ _ _ size _ offset => offset = (reader.delivered size).length ∧ offset ≤ size
  | .store reader _ _ _ size file offset =>
    (offset = (reader.delivered size).length ∧ offset ≤ size) ∧
      file = (reader.delivered size).map some ∧ file.length = toSizeT reader.getFileSize ∧
        reader.NoError
  | _ => True

end CefZipArchive

namespace ZipEntry

/-- While bytes are missing, no call fails and the file does not end. -/
def DeliversAll (e : ZipEntry) (size : Nat) : Prop :=
  ∀ k, (e.readOut size k).length < size →
    (e.answers k).isError = false ∧ ((e.readOut size (k + 1)).length < size → e.eof (k + 1) = false)

def Ends (e : ZipEntry) (size : Nat) : Prop := ∃ k, (e.readOut size k).length = size

end ZipEntry

namespace CefZipArchive

/-- The files that are read: those before the first one that cannot be opened for which there is memory,
and unless existing files are overwritten, whose names are not taken. -/
def filesRead (lower : Lowercase) (password : String) (overwriteExisting : Bool)
    (allocates : Nat → Bool) : List String → List ZipEntry → List ZipEntry
  | _, [] => []
  | taken, e :: entries =>
    if toSizeT e.fileSize = 0 then
      filesRead lower password overwriteExisting allocates taken entries
    else if e.opens password = false then []
    else if overwriteExisting = false ∧ lower.toLower e.fileName ∈ taken ∨
        allocates (toSizeT e.fileSize) = false then
      filesRead lower password overwriteExisting allocates taken entries
    else
      e :: filesRead lower password overwriteExisting allocates (lower.toLower e.fileName :: taken)
        entries

/-- Each of these files delivers all its bytes, as far as the files before it are read to their ends. -/
def AllDeliver (files : List ZipEntry) : Prop :=
  ∀ before e after, files = before ++ e :: after →
    (∀ e' ∈ before, e'.Ends (toSizeT e'.fileSize)) → e.DeliversAll (toSizeT e.fileSize)

/-! ### The inner loop -/

variable {lower : Lowercase} {password name : String} {overwriteExisting : Bool}
  {allocates : Nat → Bool} {archive rest : List ZipEntry} {e : ZipEntry} {contents : FileMap}
  {count size : Nat}

/-- The memory of a file of which the bytes of `k` calls have been read. -/
def fileAt (e : ZipEntry) (size k : Nat) : CefZipFile :=
  (e.readOut size k).map some ++ List.replicate (size - (e.readOut size k).length) none

lemma write_fileAt (k : Nat) :
    write (fileAt e size k) (e.readOut size k).length
        ((e.answers k).put (size - (e.readOut size k).length)) = fileAt e size (k + 1) := by
  unfold write fileAt
  rw [ZipEntry.readOut, take_left' (length_map _), ← drop_drop, drop_left' (length_map _),
    drop_replicate, map_append, length_append, Nat.sub_add_eq]

/-- The state before a call of `ReadFile`, after `k` others. -/
def readingAt (archive : List ZipEntry) (e : ZipEntry) (rest : List ZipEntry) (contents : FileMap)
    (count : Nat) (name : String) (size k : Nat) : LoadState :=
  .reading ⟨archive, e :: rest, some k⟩ contents count name size (fileAt e size k)
    (e.readOut size k).length

/-- The state behind the inner loop, after `k` calls of `ReadFile`. -/
def storeAt (archive : List ZipEntry) (e : ZipEntry) (rest : List ZipEntry) (contents : FileMap)
    (count : Nat) (name : String) (size k : Nat) : LoadState :=
  .store ⟨archive, e :: rest, some k⟩ contents count name size (fileAt e size k)
    (e.readOut size k).length

lemma sound_readingAt (k : Nat) : Sound (readingAt archive e rest contents count name size k) :=
  ⟨rfl, length_readOut_le k⟩

lemma sound_storeAt_iff (k : Nat) :
    Sound (storeAt archive e rest contents count name (toSizeT e.fileSize) k) ↔
      (e.readOut (toSizeT e.fileSize) k).length = toSizeT e.fileSize ∧
        ∀ j < k, (e.answers j).isError = false := by
  have hle : (e.readOut (toSizeT e.fileSize) k).length ≤ toSizeT e.fileSize :=
    length_readOut_le k
  have hlength : (fileAt e (toSizeT e.fileSize) k).length = toSizeT e.fileSize := by
    rw [fileAt, length_append, length_map, length_replicate]
    omega
  have hnoError : (ZipReader.mk archive (e :: rest) (some k)).NoError ↔
      ∀ j < k, (e.answers j).isError = false := by
    simp [ZipReader.NoError]
  constructor
  · rintro ⟨_, hfile, _, herrors⟩
    have hcomplete := congrArg List.length hfile
    rw [length_map] at hcomplete
    exact ⟨hcomplete.symm.trans hlength, hnoError.mp herrors⟩
  · rintro ⟨hcomplete, herrors⟩
    refine ⟨⟨rfl, hle⟩, ?_, hlength, hnoError.mpr herrors⟩
    rw [fileAt, hcomplete, Nat.sub_self, replicate_zero, append_nil]
    rfl

variable {fileOpen : Option Nat} {k : Nat}

lemma step_readingAt (hsize : size < 2 ^ 64) (herror : (e.answers k).isError = false) :
    step lower password overwriteExisting allocates
        (readingAt archive e rest contents count name size k) =
      some (if (e.readOut size (k + 1)).length < size ∧ e.eof (k + 1) = false then
        readingAt archive e rest contents count name size (k + 1)
      else storeAt archive e rest contents count name size (k + 1)) := by
  have hle : (e.readOut size (k + 1)).length ≤ size := length_readOut_le _
  have hoffset : ((e.readOut size k).length +
      toSizeT ((e.answers k).result (size - (e.readOut size k).length))) % 2 ^ 64 =
        (e.readOut size (k + 1)).length := by
    rw [ReadAnswer.result_eq_length herror]
    rw [ZipEntry.readOut, length_append] at hle ⊢
    rw [toSizeT_natCast (by omega), Nat.mod_eq_of_lt (by omega)]
  simp only [step, readOn, readingAt, readFile_cons, eof_cons, write_fileAt, hoffset]
  rfl

lemma not_sound_of_error (herror : (e.answers k).isError = true) :
    ∃ s, step lower password overwriteExisting allocates
      (readingAt archive e rest contents count name size k) = some s ∧ ¬ Sound s := by
  have hdelivered : e.readOut size (k + 1) = e.readOut size k := by
    rw [ZipEntry.readOut, ReadAnswer.put_eq_nil (ReadAnswer.result_neg herror _).le, append_nil]
  have hoffset : ((e.readOut size k).length +
      toSizeT ((e.answers k).result (size - (e.readOut size k).length))) % 2 ^ 64 ≠
        (e.readOut size (k + 1)).length := by
    cases hanswer : e.answers k with
    | bytes data =>
      rw [hanswer] at herror
      cases herror
    | error code =>
      have hwraps : (toSizeT (-(code.val + 1)) : Int) = -(code.val + 1) + 2 ^ 64 :=
        toSizeT_of_neg (by omega) (by omega)
      rw [hdelivered, ReadAnswer.result]
      omega
  refine ⟨_, rfl, fun hsound => ?_⟩
  simp only [readOn] at hsound
  split at hsound
  · exact hoffset hsound.1
  · exact hoffset hsound.1.1

/-- Where `Load` goes on behind an entry: at the next one, if there is one. -/
def next (archive : List ZipEntry) (contents : FileMap) (count : Nat) : List ZipEntry → LoadState
  | [] => .done contents count
  | e :: rest => .head ⟨archive, e :: rest, none⟩ contents count

lemma moveOn_eq :
    moveOn ⟨archive, e :: rest, fileOpen⟩ contents count = next archive contents count rest := by
  cases rest with
  | nil => rfl
  | cons e' rest => rfl

lemma step_storeAt (k : Nat) :
    step lower password overwriteExisting allocates
        (storeAt archive e rest contents count name size k) =
      some (next archive (contents.insert name (fileAt e size k)) (count + 1) rest) :=
  congrArg some moveOn_eq

lemma good_of_forall_reaches (hsize : size = toSizeT e.fileSize)
    (hall : ∀ s, Reaches (step lower password overwriteExisting allocates)
      (readingAt archive e rest contents count name size k) s → Sound s) :
    (e.answers k).isError = false ∧
      ((e.readOut size (k + 1)).length < size → e.eof (k + 1) = false) := by
  have herror : (e.answers k).isError = false := by
    by_contra herror
    rw [Bool.not_eq_false] at herror
    obtain ⟨s, hs, hwrong⟩ := not_sound_of_error herror
    exact hwrong (hall s (.single hs))
  refine ⟨herror, fun hlt => ?_⟩
  by_contra heof
  have hstep : step lower password overwriteExisting allocates
      (readingAt archive e rest contents count name size k) =
        some (storeAt archive e rest contents count name size (k + 1)) := by
    rw [step_readingAt (hsize ▸ toSizeT_lt _) herror, if_neg fun hgo => heof hgo.2]
  subst hsize
  have hsound := (sound_storeAt_iff (k + 1)).mp (hall _ (.single hstep))
  omega

lemma reaches_readingAt (hsize : size = toSizeT e.fileSize)
    (hall : ∀ s, Reaches (step lower password overwriteExisting allocates)
      (readingAt archive e rest contents count name size 0) s → Sound s) :
    ∀ {k : Nat}, (e.readOut size k).length < size →
      Reaches (step lower password overwriteExisting allocates)
        (readingAt archive e rest contents count name size 0)
        (readingAt archive e rest contents count name size k)
  | 0, _ => .refl
  | k + 1, hlt => by
    have hk : (e.readOut size k).length < size :=
      lt_of_le_of_lt (length_readOut_mono (Nat.le_succ k)) hlt
    have hreach := reaches_readingAt hsize hall hk
    obtain ⟨herror, heof⟩ := good_of_forall_reaches hsize fun s hs => hall s (hreach.trans hs)
    refine hreach.tail ?_
    rw [mem_def, step_readingAt (hsize ▸ toSizeT_lt _) herror, if_pos ⟨hlt, heof hlt⟩]

inductive Underway (archive : List ZipEntry) (e : ZipEntry) (rest : List ZipEntry)
    (contents : FileMap) (count : Nat) (name : String) (size : Nat) (Behind : LoadState → Prop) :
    LoadState → Prop
  | reading {k : Nat} (hlt : (e.readOut size k).length < size)
      (herrors : ∀ j < k, (e.answers j).isError = false) :
      Underway archive e rest contents count name size Behind
        (readingAt archive e rest contents count name size k)
  | store {k : Nat} (hfull : (e.readOut size k).length = size)
      (herrors : ∀ j < k, (e.answers j).isError = false) :
      Underway archive e rest contents count name size Behind
        (storeAt archive e rest contents count name size k)
  | behind {s : LoadState} (h : Behind s) :
      Underway archive e rest contents count name size Behind s

lemma Underway.step {Behind : LoadState → Prop} {s s' : LoadState}
    (hsize : size = toSizeT e.fileSize) (hdelivers : e.DeliversAll size)
    (hstart : e.Ends size → ∀ file, Behind
      (next archive (contents.insert name file) (count + 1) rest))
    (hbehind : ∀ s s', Behind s →
      CefZipArchive.step lower password overwriteExisting allocates s = some s' → Behind s')
    (h : Underway archive e rest contents count name size Behind s)
    (hstep : CefZipArchive.step lower password overwriteExisting allocates s = some s') :
    Underway archive e rest contents count name size Behind s' := by
  cases h with
  | @reading k hlt herrors =>
    obtain ⟨herror, heof⟩ := hdelivers k hlt
    have herrors' : ∀ j < k + 1, (e.answers j).isError = false := fun j hj =>
      (Nat.lt_succ_iff_lt_or_eq.mp hj).elim (herrors j) (· ▸ herror)
    rw [step_readingAt (hsize ▸ toSizeT_lt _) herror, some.injEq] at hstep
    subst hstep
    by_cases hmore : (e.readOut size (k + 1)).length < size
    · rw [if_pos ⟨hmore, heof hmore⟩]
      exact .reading hmore herrors'
    · rw [if_neg fun hgo => hmore hgo.1]
      have hle : (e.readOut size (k + 1)).length ≤ size := length_readOut_le _
      exact .store (by omega) herrors'
  | @store k hfull herrors =>
    rw [step_storeAt, some.injEq] at hstep
    exact .behind (hstep ▸ hstart ⟨k, hfull⟩ _)
  | behind h => exact .behind (hbehind _ _ h hstep)

/-- **The inner loop** is right if and only if the file delivers all its bytes, and what comes
behind the file is right if there is anything behind it.

**Proof sketch.** If all states are right, the loop gets to each call that comes before all bytes
have been delivered. Conversely, a state is before a call or behind the loop, with no failed call so
far, or behind the file. -/
theorem forall_reaches_readingAt_iff {Q : Prop} (hsize : size = toSizeT e.fileSize)
    (hpos : size ≠ 0) (hrest : ∀ file, (∀ s, Reaches
      (step lower password overwriteExisting allocates)
        (next archive (contents.insert name file) (count + 1) rest) s → Sound s) ↔ Q) :
    (∀ s, Reaches (step lower password overwriteExisting allocates)
      (readingAt archive e rest contents count name size 0) s → Sound s) ↔
      e.DeliversAll size ∧ (e.Ends size → Q) := by
  constructor
  · intro hall
    refine ⟨fun k hk => ?_, fun hends => ?_⟩
    · exact good_of_forall_reaches hsize fun s hs =>
        hall s ((reaches_readingAt hsize hall hk).trans hs)
    · -- the last call is the one behind which all bytes have been delivered for the first time
      cases hlast : Nat.find hends with
      | zero =>
        have hzero := Nat.find_spec hends
        rw [hlast] at hzero
        exact absurd hzero.symm hpos
      | succ k =>
        have hfull : (e.readOut size (k + 1)).length = size := hlast ▸ Nat.find_spec hends
        have hk : (e.readOut size k).length < size :=
          lt_of_le_of_ne (length_readOut_le k)
            (Nat.find_min hends (hlast ▸ Nat.lt_succ_self k))
        have hreach := reaches_readingAt hsize hall hk
        obtain ⟨herror, _⟩ := good_of_forall_reaches hsize fun s hs => hall s (hreach.trans hs)
        have hstep : step lower password overwriteExisting allocates
            (readingAt archive e rest contents count name size k) =
              some (storeAt archive e rest contents count name size (k + 1)) := by
          rw [step_readingAt (hsize ▸ toSizeT_lt _) herror, if_neg (by omega)]
        exact (hrest _).mp fun s hs =>
          hall s (((hreach.tail hstep).tail (step_storeAt _)).trans hs)
  · rintro ⟨hdelivers, hQ⟩ s hs
    have hunderway : Underway archive e rest contents count name size
        (fun s => Q ∧ ∃ file, Reaches
          (step lower password overwriteExisting allocates)
            (next archive (contents.insert name file) (count + 1) rest) s) s :=
      hs.invariant (fun s s' h hstep => h.step hsize hdelivers
        (fun hends file => ⟨hQ hends, file, .refl⟩)
        (fun s s' ⟨hq, file, hreach⟩ hstep => ⟨hq, file, hreach.tail hstep⟩) hstep)
        (.reading (Nat.pos_of_ne_zero hpos) nofun)
    cases hunderway with
    | reading hlt herrors => exact sound_readingAt _
    | store hfull herrors =>
      subst hsize
      exact (sound_storeAt_iff _).mpr ⟨hfull, herrors⟩
    | behind h =>
      obtain ⟨hq, file, hreach⟩ := h
      exact (hrest file).mpr hq s hreach

/-! ### The outer loop -/

lemma allDeliver_cons_iff {files : List ZipEntry} : AllDeliver (e :: files) ↔
    e.DeliversAll (toSizeT e.fileSize) ∧ (e.Ends (toSizeT e.fileSize) → AllDeliver files) := by
  constructor
  · intro h
    refine ⟨h [] e files rfl nofun, fun hends before e' after heq hbefore => ?_⟩
    exact h (e :: before) e' after (congrArg (e :: ·) heq)
      (forall_mem_cons.mpr ⟨hends, hbefore⟩)
  · rintro ⟨hdelivers, hfiles⟩ before e' after heq hbefore
    cases before with
    | nil =>
      cases heq
      exact hdelivers
    | cons b before =>
      cases heq
      obtain ⟨hends, hbefore⟩ := forall_mem_cons.mp hbefore
      exact hfiles hends before e' after rfl hbefore

lemma step_of_empty (hsize : toSizeT e.fileSize = 0) :
    step lower password overwriteExisting allocates
        (.head ⟨archive, e :: rest, fileOpen⟩ contents count) =
      some (next archive contents count rest) := by
  simp [step, getFileSize_cons, if_pos hsize, moveOn_eq]

lemma step_of_not_opens (hsize : toSizeT e.fileSize ≠ 0) (hopens : e.opens password = false) :
    step lower password overwriteExisting allocates
        (.head ⟨archive, e :: rest, fileOpen⟩ contents count) = some (.done contents count) := by
  simp only [step, getFileSize_cons, if_neg hsize, openFile_of_not_opens hopens]
  rfl

lemma step_of_opens (hsize : toSizeT e.fileSize ≠ 0) (hopens : e.opens password = true) :
    step lower password overwriteExisting allocates
        (.head ⟨archive, e :: rest, fileOpen⟩ contents count) =
      some (if lower.toLower e.fileName ∈ contents ∧ overwriteExisting = false ∨
          allocates (toSizeT e.fileSize) = false then
        next archive
          (if lower.toLower e.fileName ∈ contents ∧ overwriteExisting = true then
            contents.erase (lower.toLower e.fileName) else contents) count rest
      else readingAt archive e rest
        (if lower.toLower e.fileName ∈ contents ∧ overwriteExisting = true then
          contents.erase (lower.toLower e.fileName) else contents)
        count (lower.toLower e.fileName) (toSizeT e.fileSize) 0) := by
  simp only [step, getFileSize_cons, if_neg hsize, openFile_of_opens hopens,
    getFileName_cons, startReading, moveOn_eq]
  by_cases hmem : lower.toLower e.fileName ∈ contents
  · cases overwriteExisting with
    | true =>
      cases hallocates : allocates (toSizeT e.fileSize) with
      | true => simp [hmem, readingAt, fileAt, initializeFile, ZipEntry.readOut]
      | false => simp [hmem]
    | false => simp [hmem]
  · cases hallocates : allocates (toSizeT e.fileSize) with
    | true => simp [hmem, readingAt, fileAt, initializeFile, ZipEntry.readOut]
    | false => simp [hmem]

/-- **The outer loop** is right if and only if the files that are read deliver all their bytes, each as
far as those before it are read to their ends.

**Proof sketch.** Induction on the entries. -/
theorem forall_reaches_next_iff : ∀ {entries : List ZipEntry} {contents : FileMap} {count : Nat}
    {taken : List String}, (overwriteExisting = true ∨ ∀ key, key ∈ taken ↔ key ∈ contents) →
    ((∀ s, Reaches (step lower password overwriteExisting allocates)
        (next archive contents count entries) s → Sound s) ↔
      AllDeliver (filesRead lower password overwriteExisting allocates taken entries))
  | [], contents, count, taken, _ => by
    rw [next, forall_reaches_iff_of_stop rfl]
    exact iff_of_true trivial fun before e after heq => by simp [filesRead] at heq
  | e :: entries, contents, count, taken, htaken => by
    rw [next]
    by_cases hsize : toSizeT e.fileSize = 0
    · rw [forall_reaches_iff_of_step (step_of_empty hsize),
        forall_reaches_next_iff htaken, filesRead, if_pos hsize]
      exact and_iff_right trivial
    · cases hopens : e.opens password with
      | false =>
        rw [forall_reaches_iff_of_step (step_of_not_opens hsize hopens),
          forall_reaches_iff_of_stop rfl, filesRead, if_neg hsize, if_pos hopens]
        exact iff_of_true ⟨trivial, trivial⟩ fun before e after heq => by simp at heq
      | true =>
        have hnot : e.opens password ≠ false := by simp [hopens]
        rw [forall_reaches_iff_of_step (step_of_opens hsize hopens), filesRead,
          if_neg hsize, if_neg hnot]
        refine (and_iff_right trivial).trans ?_
        generalize hleft : (if lower.toLower e.fileName ∈ contents ∧ overwriteExisting = true then
          contents.erase (lower.toLower e.fileName) else contents) = contents'
        have htaken' : overwriteExisting = true ∨ ∀ key, key ∈ taken ↔ key ∈ contents' := by
          by_cases hover : overwriteExisting = true
          · exact .inl hover
          · rw [if_neg fun h => hover h.2] at hleft
            exact .inr (hleft ▸ htaken.resolve_left hover)
        have hskip : (lower.toLower e.fileName ∈ contents ∧ overwriteExisting = false ∨
              allocates (toSizeT e.fileSize) = false) ↔
            (overwriteExisting = false ∧ lower.toLower e.fileName ∈ taken ∨
              allocates (toSizeT e.fileSize) = false) := by
          rcases htaken with rfl | hkeys
          · simp
          · rw [hkeys, and_comm]
        by_cases hs : lower.toLower e.fileName ∈ contents ∧ overwriteExisting = false ∨
            allocates (toSizeT e.fileSize) = false
        · rw [if_pos hs, if_pos (hskip.mp hs), forall_reaches_next_iff htaken']
        · rw [if_neg hs, if_neg (hs ∘ hskip.mpr), allDeliver_cons_iff]
          refine forall_reaches_readingAt_iff rfl hsize fun file => forall_reaches_next_iff ?_
          refine htaken'.imp_right fun hkeys key => ?_
          rw [AList.mem_insert, mem_cons, hkeys]

lemma load_eq_next (contents : FileMap) (entries : List ZipEntry) :
    load contents (some entries) = next entries contents 0 entries := by
  cases entries with
  | nil => rfl
  | cons e rest => rfl

/-- **When loading is right**: of the files that are read, each delivers all its bytes without an error,
as far as those before it are read to their ends. -/
theorem always_sound_iff (lower : Lowercase) (password : String) (overwriteExisting : Bool)
    (allocates : Nat → Bool) (contents : FileMap) (entries : List ZipEntry) :
    (∀ s, Reaches (step lower password overwriteExisting allocates)
        (load contents (some entries)) s → Sound s) ↔
      AllDeliver (filesRead lower password overwriteExisting allocates contents.keys entries) := by
  rw [load_eq_next]
  exact forall_reaches_next_iff (.inr fun key => Iff.rfl)

/-- A file of two bytes that cannot be read. -/
def sampleDamaged : ZipEntry where
  fileName := "a.txt"
  fileSize := 2
  opens _ := true
  answers _ := .error 2
  eof _ := false

/-- A file whose reading fails is stored. -/
theorem not_always_sound_damaged :
    ¬ ∀ s, Reaches (step .ascii "" false fun _ => true)
      (load ∅ (some [sampleDamaged])) s → Sound s := by
  rw [load_eq_next, forall_reaches_next_iff (.inr fun key => Iff.rfl)]
  intro h
  have hread : filesRead .ascii "" false (fun _ => true) (∅ : FileMap).keys [sampleDamaged] =
      [sampleDamaged] := by
    simp [filesRead, sampleDamaged, toSizeT]
  obtain ⟨herror, _⟩ := h [] sampleDamaged [] hread nofun 0 (by decide)
  cases herror

end CefZipArchive

end CefCore.Wrapper
