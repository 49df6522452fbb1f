import Mathlib.Data.List.TakeWhile
import Mathlib.Data.Nat.Find
import Mathlib.Data.String.Basic

/-!
# The reader of zip archives

`CefZipReaderImpl` of `libcef/browser/zip_reader_impl.cc`: a cursor that goes through the entries of
an archive, and the file that is open at the cursor.

## Main definitions

* `ZipReader`: a cursor and the file that is open.

## Implementation notes

* The archive is what the zip library makes of it: its entries as far as the cursor gets, and for each
  the answers to all calls. That the library puts no more bytes into a buffer than fit is part of
  `ReadAnswer.put`.
* The calls come from the thread that has made the reader, so `VerifyContext` holds.
* The information on the current file is asked for again instead of being kept.
-/

namespace CefCore.Wrapper

open List

/-- What the zip library answers to a call that reads: an error, which is an `int` below zero, or
bytes that are put into the buffer. -/
inductive ReadAnswer where
  | error (code : Fin (2 ^ 31))
  | bytes (data : List UInt8)

namespace ReadAnswer

/-- The bytes that are put into a buffer of this size. An `int` must count them. -/
def put : ReadAnswer → Nat → List UInt8
  | .error _, _ => []
  | .bytes data, bufferSize => data.take (min bufferSize (2 ^ 31 - 1))

def result : ReadAnswer → Nat → Int
  | .error code, _ => -(code.val + 1)
  | .bytes data, bufferSize => (ReadAnswer.bytes data).put bufferSize |>.length

def isError : ReadAnswer → Bool
  | .error _ => true
  | .bytes _ => false

lemma length_put_le (answer : ReadAnswer) (n : Nat) : (answer.put n).length ≤ n := by
  cases answer with
  | error code => exact Nat.zero_le n
  | bytes data =>
    rw [put, length_take]
    omega

lemma result_eq_length {answer : ReadAnswer} (h : answer.isError = false) (n : Nat) :
    answer.result n = (answer.put n).length := by
  cases answer with
  | error code => cases h
  | bytes data => rfl

lemma result_neg {answer : ReadAnswer} (h : answer.isError = true) (n : Nat) :
    answer.result n < 0 := by
  cases answer with
  | error code =>
    rw [result]
    omega
  | bytes data => cases h

lemma put_eq_nil {answer : ReadAnswer} {n : Nat} (h : answer.result n ≤ 0) : answer.put n = [] := by
  cases answer with
  | error code => rfl
  | bytes data =>
    rw [result] at h
    exact length_eq_zero_iff.mp (by omega)

end ReadAnswer

/-- An entry of an archive: what is known of it, for which password it can be opened, the answers to
the calls of `ReadFile` in their order, and whether `Eof` holds after that many of them. -/
structure ZipEntry where
  fileName : String
  fileSize : Int
  opens : String → Bool
  answers : Nat → ReadAnswer
  eof : Nat → Bool

/-- `CefZipReaderImpl`. The cursor is the current entry with those behind it; of an open file, the
number of calls of `ReadFile` is known. -/
structure ZipReader where
  archive : List ZipEntry
  cursor : List ZipEntry
  fileOpen : Option Nat := none

namespace ZipReader

/-- `CefZipReader::Create`. The zip library goes to the first file by itself. -/
def create (archive : List ZipEntry) : ZipReader where
  archive := archive
  cursor := archive

section

variable (r : ZipReader)

def moveToFirstFile : Bool × ZipReader :=
  (!r.archive.isEmpty, { r with cursor := r.archive, fileOpen := none })

def moveToNextFile : Bool × ZipReader :=
  match r.cursor with
  | _ :: next :: rest => (true, { r with cursor := next :: rest, fileOpen := none })
  | _ => (false, { r with fileOpen := none })

def getFileName : String := r.cursor.head?.elim "" ZipEntry.fileName

def getFileSize : Int := r.cursor.head?.elim (-1) ZipEntry.fileSize

def openFile (password : String) : Bool × ZipReader :=
  if r.cursor.head?.any (·.opens password) = true then (true, { r with fileOpen := some 0 })
  else (false, { r with fileOpen := none })

def closeFile : ZipReader := { r with fileOpen := none }

/-- `CefZipReaderImpl::ReadFile`: the number that is returned, and the bytes that are put into the
buffer. -/
def readFile (bufferSize : Nat) : (Int × List UInt8) × ZipReader :=
  match r.fileOpen, r.cursor with
  | some calls, e :: _ =>
    (((e.answers calls).result bufferSize, (e.answers calls).put bufferSize),
      { r with fileOpen := some (calls + 1) })
  | _, _ => ((-1, []), r)

def eof : Bool :=
  match r.fileOpen, r.cursor with
  | some calls, e :: _ => e.eof calls
  | _, _ => true

end

variable {archive rest : List ZipEntry} {e : ZipEntry} {fileOpen : Option Nat}

@[simp] lemma getFileName_cons :
    (ZipReader.mk archive (e :: rest) fileOpen).getFileName = e.fileName := rfl

@[simp] lemma getFileSize_cons :
    (ZipReader.mk archive (e :: rest) fileOpen).getFileSize = e.fileSize := rfl

lemma openFile_of_opens {password : String} (h : e.opens password = true) :
    (ZipReader.mk archive (e :: rest) fileOpen).openFile password =
      (true, ⟨archive, e :: rest, some 0⟩) := if_pos h

lemma openFile_of_not_opens {password : String} (h : e.opens password = false) :
    (ZipReader.mk archive (e :: rest) fileOpen).openFile password =
      (false, ⟨archive, e :: rest, none⟩) := if_neg (Bool.eq_false_iff.mp h)

@[simp] lemma readFile_cons {calls bufferSize : Nat} :
    (ZipReader.mk archive (e :: rest) (some calls)).readFile bufferSize =
      (((e.answers calls).result bufferSize, (e.answers calls).put bufferSize),
        ⟨archive, e :: rest, some (calls + 1)⟩) := rfl

@[simp] lemma eof_cons {calls : Nat} :
    (ZipReader.mk archive (e :: rest) (some calls)).eof = e.eof calls := rfl

end ZipReader

/-! ### What a file delivers -/

namespace ZipEntry

variable {e : ZipEntry} {size : Nat}

/-- The bytes that the file has delivered after `k` calls of `ReadFile`, each of which asks for those
that are missing. -/
def readOut (e : ZipEntry) (size : Nat) : Nat → List UInt8
  | 0 => []
  | k + 1 => e.readOut size k ++ (e.answers k).put (size - (e.readOut size k).length)

lemma length_readOut_le : ∀ k, (e.readOut size k).length ≤ size
  | 0 => Nat.zero_le size
  | k + 1 => by
    have hk : (e.readOut size k).length ≤ size := length_readOut_le k
    have hput := (e.answers k).length_put_le (size - (e.readOut size k).length)
    rw [readOut, length_append]
    omega

lemma length_readOut_mono : Monotone fun k => (e.readOut size k).length :=
  monotone_nat_of_le_succ fun k => by
    rw [readOut, length_append]
    exact Nat.le_add_right _ _

end ZipEntry

/-- A conversion to lower case, such as `str::to_lowercase`: what is in lower case stays as it is. -/
structure Lowercase where
  toLower : String → String
  toLower_toLower : ∀ s, toLower (toLower s) = toLower s

lemma char_toLower_toLower (c : Char) : c.toLower.toLower = c.toLower := by
  unfold Char.toLower
  split
  · rename_i h
    rw [dif_neg]
    rintro ⟨_, hle'⟩
    obtain ⟨hge, hle⟩ := h
    simp only [ge_iff_le, UInt32.le_iff_toNat_le, UInt32.toNat_add] at hge hle hle'
    simp at hge hle hle'
    omega
  · rfl

def Lowercase.ascii : Lowercase where
  toLower s := .ofList (s.toList.map Char.toLower)
  toLower_toLower s := by
    rw [String.toList_ofList, map_map]
    exact congrArg (fun f => String.ofList (s.toList.map f)) (funext char_toLower_toLower)

end CefCore.Wrapper
