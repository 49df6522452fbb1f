import CefCore.Foundations.Utf16
import Mathlib.Algebra.Group.Nat.Defs

/-!
# Process messages

What the message routers put into a process message: either an argument list, the list value of
`libcef/common/values_impl.cc`, which keeps text in UTF-8, or a region of shared memory.

## Main definitions

* `ListValue`, `ProcessMessage`: what is sent.

## Implementation notes

`base::UTF16ToUTF8` and `base::UTF8ToUTF16` are not part of the repository. They are taken as
parameters with what is documented for them, so that results hold for any functions that keep to
it; `UnicodeConversions.standard` does. Numbers are stored with the low byte first.
-/

namespace CefCore.MessageRouter

open List

/-! ### Text -/

/-- `base::UTF16ToUTF8` and `base::UTF8ToUTF16`: the first writes U+FFFD for each unpaired
surrogate and returns whether there was none, the second reads valid UTF-8 without loss. -/
structure UnicodeConversions where
  utf16ToUtf8 : List UInt16 → Bool × String
  utf8ToUtf16 : String → Bool × List UInt16
  utf16ToUtf8_text : ∀ src, (utf16ToUtf8 src).2 = String.ofList (Utf16.lossy src)
  utf16ToUtf8_valid : ∀ src, (utf16ToUtf8 src).1 = true ↔ Utf16.WellFormed src
  utf8ToUtf16_eq : ∀ src, utf8ToUtf16 src = (true, Utf16.encode src.toList)

def UnicodeConversions.standard : UnicodeConversions where
  utf16ToUtf8 src := (decide (Utf16.WellFormed src), String.ofList (Utf16.lossy src))
  utf8ToUtf16 src := (true, Utf16.encode src.toList)
  utf16ToUtf8_text _ := rfl
  utf16ToUtf8_valid _ := decide_eq_true_iff
  utf8ToUtf16_eq _ := rfl

/-- A `CefString`, which holds UTF-16. -/
abbrev CefString := List UInt16

/-- `CefString::ToString`. The result of the conversion is not looked at. -/
def CefString.toString (base : UnicodeConversions) (s : CefString) : String :=
  if s.isEmpty then "" else (base.utf16ToUtf8 s).2

/-- `CefString::FromString` of an `std::string`. -/
def CefString.fromString (base : UnicodeConversions) (str : String) : CefString :=
  if str = "" then [] else (base.utf8ToUtf16 str).2

section Text

variable (base : UnicodeConversions)

lemma toString_eq (s : CefString) : s.toString base = String.ofList (Utf16.lossy s) := by
  unfold CefString.toString
  split
  · rename_i h
    rw [isEmpty_iff.mp h]
    rfl
  · exact base.utf16ToUtf8_text s

lemma fromString_eq (str : String) : CefString.fromString base str = Utf16.encode str.toList := by
  unfold CefString.fromString
  split
  · rename_i h
    rw [h]
    rfl
  · rw [base.utf8ToUtf16_eq]

end Text

/-! ### List values -/

inductive ListItem where
  | null
  | bool (value : Bool)
  | int (value : Int32)
  | string (value : String)
  | binary (value : List UInt8)

/-- `cef_value_type_t`, as far as it is used here. -/
inductive ValueType where
  | invalid
  | null
  | bool
  | int
  | string
  | binary

/-- `CefListValue`. -/
abbrev ListValue := List ListItem

namespace ListValue

variable (args : ListValue) (index : Nat)

/-- `SetInternal`: a list that is too short is filled up with null values. -/
def setInternal (value : ListItem) : ListValue :=
  if index < args.length then args.set index value
  else args ++ List.replicate (index - args.length) .null ++ [value]

def setNull : ListValue := args.setInternal index .null

def setBool (value : Bool) : ListValue := args.setInternal index (.bool value)

def setInt (value : Int32) : ListValue := args.setInternal index (.int value)

def setString (base : UnicodeConversions) (value : CefString) : ListValue :=
  args.setInternal index (.string (value.toString base))

/-- `set_binary`, which refuses a null pointer. -/
def setBinary (value : Option (List UInt8)) : ListValue :=
  match value with
  | some value => args.setInternal index (.binary value)
  | none => args

def getType : ValueType :=
  match args[index]? with
  | none => .invalid
  | some .null => .null
  | some (.bool _) => .bool
  | some (.int _) => .int
  | some (.string _) => .string
  | some (.binary _) => .binary

def getBool : Bool :=
  match args[index]? with
  | some (.bool value) => value
  | _ => false

def getInt : Int32 :=
  match args[index]? with
  | some (.int value) => value
  | _ => 0

def getString (base : UnicodeConversions) : CefString :=
  match args[index]? with
  | some (.string value) => CefString.fromString base value
  | _ => CefString.fromString base ""

def getBinary : Option (List UInt8) :=
  match args[index]? with
  | some (.binary value) => some value
  | _ => none

lemma setInt_setInt (contextId requestId : Int32) :
    (setInt [] 0 contextId).setInt 1 requestId = [.int contextId, .int requestId] := rfl

end ListValue

/-- `CefBinaryValue::Create`: there is no empty binary value. -/
def binaryValueCreate (data : List UInt8) : Option (List UInt8) :=
  if data.isEmpty then none else some data

/-- A V8 value, as far as a request is made of it: a string, an array buffer, or another one, which
has no array buffer data. -/
inductive RequestV8Value where
  | string (value : CefString)
  | arrayBuffer (data : List UInt8)
  | other

lemma fromString_toString (base : UnicodeConversions) (s : CefString) :
    CefString.fromString base (s.toString base) = Utf16.encode (Utf16.lossy s) := by
  rw [fromString_eq, toString_eq, String.toList_ofList]

/-! ### Memory -/

/-- `to_ne_bytes` of an `i32`. -/
def toNeBytes (x : Int32) : List UInt8 :=
  let n := x.toBitVec.toNat
  [UInt8.ofNat n, UInt8.ofNat (n / 2 ^ 8), UInt8.ofNat (n / 2 ^ 16), UInt8.ofNat (n / 2 ^ 24)]

def fromNeBytes (b₀ b₁ b₂ b₃ : UInt8) : Int32 :=
  Int32.ofBitVec (BitVec.ofNat 32
    (b₀.toNat + 2 ^ 8 * b₁.toNat + 2 ^ 16 * b₂.toNat + 2 ^ 24 * b₃.toNat))

lemma fromNeBytes_toNeBytes (x : Int32) :
    toNeBytes x = [UInt8.ofNat x.toBitVec.toNat, UInt8.ofNat (x.toBitVec.toNat / 2 ^ 8),
        UInt8.ofNat (x.toBitVec.toNat / 2 ^ 16), UInt8.ofNat (x.toBitVec.toNat / 2 ^ 24)] ∧
      fromNeBytes (UInt8.ofNat x.toBitVec.toNat) (UInt8.ofNat (x.toBitVec.toNat / 2 ^ 8))
        (UInt8.ofNat (x.toBitVec.toNat / 2 ^ 16)) (UInt8.ofNat (x.toBitVec.toNat / 2 ^ 24)) =
        x := by
  refine ⟨rfl, ?_⟩
  have hsum : (UInt8.ofNat x.toBitVec.toNat).toNat +
      2 ^ 8 * (UInt8.ofNat (x.toBitVec.toNat / 2 ^ 8)).toNat +
      2 ^ 16 * (UInt8.ofNat (x.toBitVec.toNat / 2 ^ 16)).toNat +
      2 ^ 24 * (UInt8.ofNat (x.toBitVec.toNat / 2 ^ 24)).toNat = x.toBitVec.toNat := by
    simp only [UInt8.toNat_ofNat']
    omega
  rw [fromNeBytes, hsum, BitVec.ofNat_toNat, BitVec.setWidth_eq, Int32.ofBitVec_toBitVec]

/-- Write data into memory from a position on; fails if it does not fit. -/
def writeAll (memory : List UInt8) (position : Nat) (data : List UInt8) : Option (List UInt8) :=
  if position + data.length ≤ memory.length then
    some (memory.take position ++ data ++ memory.drop (position + data.length))
  else none

lemma writeAll_back {memory data : List UInt8} {position : Nat}
    (h : memory.length = position + data.length) :
    writeAll memory position data = some (memory.take position ++ data) := by
  rw [writeAll, if_pos (Nat.le_of_eq h.symm), ← h, drop_length, append_nil]

lemma writeAll_front {front rest data : List UInt8} (h : front.length = data.length) :
    writeAll (front ++ rest) 0 data = some (data ++ rest) := by
  have hfits : 0 + data.length ≤ (front ++ rest).length := by
    rw [length_append]
    omega
  rw [writeAll, if_pos hfits, take_zero, Nat.zero_add, ← h, drop_left, nil_append]

/-- A message that has arrived: `argument_list()` returns the list, or `shared_memory_region()`
the region. -/
inductive ProcessMessage where
  | argumentList (args : ListValue)
  | sharedMemoryRegion (memory : List UInt8)

end CefCore.MessageRouter
