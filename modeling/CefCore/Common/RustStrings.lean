import Mathlib.Data.List.Basic

/-!
# The strings of the crate

`CefStringUtf16` of `rust/cef-rs/cef/src/string.rs` stands for a struct of the C library: it holds a
copy of one that belongs to somebody else, points to one, or owns one, whose text it frees when it is
dropped. `WrapParamRef` of `rc.rs` gives the fields of a struct to a function of the client, and puts
back into it what the client has left.

## Main results

* `writtenBack_iff`: which strings arrive in the struct.

## Implementation notes

* A string that is made from a text, or from one that the C library has returned, owns a copy.
* Of a struct of the C library only the fields that are strings are there.
* What is read from memory that has been freed is `none`.
-/

namespace CefCore.Common.Strings

open List Option

/-- `_cef_string_utf16_t`, where `dtor` says whether there is a destructor. -/
structure RawString where
  str : Option Nat
  length : Nat
  dtor : Bool

def RawString.zeroed : RawString := ⟨none, 0, false⟩

/-- The texts that are allocated, and the structs: strings, and structs with fields that are strings. -/
structure Memory where
  texts : Nat → Option (List UInt16)
  strings : Nat → RawString
  structs : Nat → List RawString

/-- The code units of a struct. There are none behind a null pointer. -/
def RawString.units (memory : Memory) (raw : RawString) : Option (List UInt16) :=
  match raw.str with
  | none => some []
  | some address =>
    if raw.length = 0 then some []
    else
      match memory.texts address with
      | none => none
      | some text => if raw.length ≤ text.length then some (text.take raw.length) else none

/-- `cef_string_utf16_clear`, of a struct that is not used afterwards. -/
def clear (memory : Memory) (raw : RawString) : Memory :=
  match raw.str with
  | none => memory
  | some address =>
    if raw.dtor then { memory with texts := Function.update memory.texts address none } else memory

inductive CefStringUtf16 where
  | borrowed (value : Option RawString)
  | borrowedMut (value : Option Nat)
  | clear (value : Option RawString)

namespace CefStringUtf16

/-- `From<_cef_string_utf16_t> for CefStringUtf16`. -/
def fromRaw (raw : RawString) : CefStringUtf16 := .borrowed (some raw)

/-- `From<&CefStringData<T>> for Option<&T>`. -/
def asRef (memory : Memory) : CefStringUtf16 → Option RawString
  | .borrowed value | .clear value => value
  | .borrowedMut value => value.map memory.strings

/-- `CefStringUtf16::as_slice`, with nothing in place of `None`. -/
def units (memory : Memory) (s : CefStringUtf16) : Option (List UInt16) :=
  match s.asRef memory with
  | none => some []
  | some raw => raw.units memory

def drop (memory : Memory) : CefStringUtf16 → Memory
  | .clear (some raw) => Strings.clear memory raw
  | _ => memory

/-- The struct that `From<CefStringUtf16> for _cef_string_utf16_t` gives. -/
def toRaw : CefStringUtf16 → RawString
  | .borrowed value => value.getD .zeroed
  | _ => .zeroed

/-- `From<CefStringUtf16> for _cef_string_utf16_t`. The string is dropped. -/
def intoRaw (memory : Memory) (s : CefStringUtf16) : RawString × Memory := (s.toRaw, s.drop memory)

def IsBorrowed : CefStringUtf16 → Prop
  | .borrowed _ => True
  | _ => False

/-- The address of the text that the string frees when it is dropped. -/
def owned? : CefStringUtf16 → Option Nat
  | .clear (some raw) => if raw.dtor then raw.str else none
  | _ => none

end CefStringUtf16

/-! ### Structs that are written back -/

/-- The generated `From<T> for P`, where `P` is a struct of the C library: one field after another. -/
def fieldsIntoRaw (memory : Memory) : List CefStringUtf16 → List RawString × Memory
  | [] => ([], memory)
  | field :: fields =>
    let (raw, memory) := field.intoRaw memory
    let (raws, memory) := fieldsIntoRaw memory fields
    (raw :: raws, memory)

structure WrapParamRef where
  value : List CefStringUtf16
  output : Option Nat

namespace WrapParamRef

/-- `Drop`: the value is converted and put into the struct. -/
def drop (memory : Memory) (w : WrapParamRef) : Memory :=
  match w.output with
  | none => memory
  | some output =>
    let (raws, memory) := fieldsIntoRaw memory w.value
    { memory with structs := Function.update memory.structs output raws }

end WrapParamRef

def Frees (fields : List CefStringUtf16) (address : Nat) : Prop :=
  ∃ field ∈ fields, field.owned? = some address

/-- The field has no text, or it has a copy of a struct whose text no field frees. -/
def Keeps (memory : Memory) (fields : List CefStringUtf16) (field : CefStringUtf16) : Prop :=
  field.units memory = some [] ∨
    field.IsBorrowed ∧ ∀ raw ∈ field.asRef memory, ∀ address ∈ raw.str, ¬ Frees fields address

/-! ### What a conversion leaves -/

variable {memory : Memory}

lemma units_congr {memory' : Memory} {raw : RawString}
    (h : ∀ address ∈ raw.str, memory'.texts address = memory.texts address) :
    raw.units memory' = raw.units memory := by
  unfold RawString.units
  cases hstr : raw.str with
  | none => rfl
  | some address =>
    dsimp only
    rw [h address hstr]

lemma texts_drop (s : CefStringUtf16) (address : Nat) : (s.drop memory).texts address =
    if s.owned? = some address then none else memory.texts address := by
  cases s with
  | borrowed value => rfl
  | borrowedMut value => rfl
  | clear value =>
    cases value with
    | none => rfl
    | some raw =>
      rw [CefStringUtf16.drop, CefStringUtf16.owned?, clear]
      cases raw.str with
      | none => simp
      | some owned =>
        cases raw.dtor with
        | false => simp
        | true =>
          by_cases hsame : address = owned
          · simp [hsame]
          · simp [hsame, Ne.symm hsame]

lemma fieldsIntoRaw_eq (memory : Memory) (fields : List CefStringUtf16) :
    (fieldsIntoRaw memory fields).1 = fields.map CefStringUtf16.toRaw ∧
      (∀ address, Frees fields address → (fieldsIntoRaw memory fields).2.texts address = none) ∧
      ∀ address, ¬ Frees fields address →
        (fieldsIntoRaw memory fields).2.texts address = memory.texts address := by
  induction fields generalizing memory with
  | nil =>
    refine ⟨rfl, ?_, fun _ _ => rfl⟩
    rintro address ⟨field, hmem, -⟩
    exact nomatch hmem
  | cons field fields ih =>
    obtain ⟨hraws, hfreed, hkept⟩ := ih (field.drop memory)
    have hcons : ∀ address, Frees (field :: fields) address ↔
        field.owned? = some address ∨ Frees fields address := fun address =>
      exists_mem_cons_iff ..
    rw [fieldsIntoRaw, CefStringUtf16.intoRaw]
    refine ⟨congrArg (field.toRaw :: ·) hraws, fun address hfrees => ?_, fun address hnot => ?_⟩
    · by_cases hrest : Frees fields address
      · exact hfreed address hrest
      · have hfirst := ((hcons address).mp hfrees).resolve_right hrest
        exact (hkept address hrest).trans (by rw [texts_drop, if_pos hfirst])
    · rw [hcons, not_or] at hnot
      exact (hkept address hnot.2).trans (by rw [texts_drop, if_neg hnot.1])

lemma units_eq_nil_iff {raw : RawString} {text : List UInt16} (h : raw.units memory = some text) :
    text = [] ↔ raw.str = none ∨ raw.length = 0 := by
  unfold RawString.units at h
  split at h
  · rename_i hstr
    exact iff_of_true (some.inj h).symm (.inl hstr)
  · rename_i address hstr
    split at h
    · rename_i hlength
      exact iff_of_true (some.inj h).symm (.inr hlength)
    · rename_i hlength
      split at h
      · cases h
      · split at h
        · rename_i buffer hbuffer hle
          cases h
          refine iff_of_false (fun hnil => ?_) (by simp [hstr, hlength])
          rw [take_eq_nil_iff] at hnil
          rcases hnil with hzero | rfl
          · exact hlength hzero
          · exact hlength (Nat.le_zero.mp hle)
        · cases h

lemma toRaw_units_iff {fields : List CefStringUtf16} {memory' : Memory}
    (hfreed : ∀ address, Frees fields address → memory'.texts address = none)
    (hkept : ∀ address, ¬ Frees fields address → memory'.texts address = memory.texts address)
    {field : CefStringUtf16} {text : List UInt16} (htext : field.units memory = some text) :
    field.toRaw.units memory' = some text ↔ Keeps memory fields field := by
  have hzeroed : RawString.zeroed.units memory' = some text ↔ field.units memory = some [] := by
    rw [htext]
    exact ⟨fun h => h.symm, fun h => h.symm⟩
  cases field with
  | borrowedMut value => exact hzeroed.trans (or_iff_left fun h => h.1).symm
  | clear value => exact hzeroed.trans (or_iff_left fun h => h.1).symm
  | borrowed value =>
    cases value with
    | none => exact hzeroed.trans ⟨.inl, fun _ => rfl⟩
    | some raw =>
      have hraw : raw.units memory = some text := htext
      show raw.units memory' = some text ↔ _
      constructor
      · intro hread
        by_cases hnil : text = []
        · exact .inl (htext.trans (congrArg some hnil))
        · refine .inr ⟨trivial, fun raw' hraw' address haddress hfrees => hnil ?_⟩
          cases hraw'
          -- nothing can be read at an address that has been freed
          refine (units_eq_nil_iff hread).mpr (.inr ?_)
          by_contra hlength
          rw [RawString.units, mem_def.mp haddress] at hread
          dsimp only at hread
          rw [if_neg hlength, hfreed address hfrees] at hread
          exact nomatch hread
      · rintro (hnil | ⟨-, hnot⟩)
        · have hempty : text = [] := some.inj (htext.symm.trans hnil)
          subst hempty
          have hnone := (units_eq_nil_iff hraw).mp rfl
          rw [RawString.units]
          split
          · rfl
          · rename_i address hstr
            rw [if_pos (hnone.resolve_left (by simp [hstr]))]
        · rw [← hraw]
          exact units_congr fun address haddress => hkept address (hnot raw rfl address haddress)

/-- **When texts are kept.** A string that is converted to a struct and read back has its text if and
only if it holds a copy of a struct or has no text. A struct that is written back has the text of each of
its fields if and only if every field has no text, or holds a copy of a struct whose text no field
frees. -/
theorem writtenBack_iff (memory : Memory) (s : CefStringUtf16) (w : WrapParamRef) (output : Nat)
    (hs : s.units memory ≠ none) (houtput : w.output = some output)
    (hfields : ∀ field ∈ w.value, field.units memory ≠ none) :
    ((CefStringUtf16.fromRaw (s.intoRaw memory).1).units (s.intoRaw memory).2 = s.units memory ↔
      s.IsBorrowed ∨ s.units memory = some []) ∧
    ((∀ (i : Nat) (field : CefStringUtf16), w.value[i]? = some field →
        (((w.drop memory).structs output)[i]?).map
          (fun raw => (CefStringUtf16.fromRaw raw).units (w.drop memory)) =
            some (field.units memory)) ↔
      ∀ field ∈ w.value, Keeps memory w.value field) := by
  constructor
  · obtain ⟨text, htext⟩ := ne_none_iff_exists'.mp hs
    have hfreed : ∀ address, Frees [s] address → (s.drop memory).texts address = none := by
      rintro address ⟨field, hmem, howned⟩
      obtain rfl := mem_singleton.mp hmem
      rw [texts_drop, if_pos howned]
    have hkept : ∀ address, ¬ Frees [s] address →
        (s.drop memory).texts address = memory.texts address := by
      intro address hnot
      rw [texts_drop, if_neg fun howned => hnot ⟨s, mem_singleton_self s, howned⟩]
    rw [htext]
    refine (toRaw_units_iff hfreed hkept htext).trans ?_
    rw [Keeps, htext, or_comm]
    refine or_congr_left (and_iff_left_of_imp fun hborrowed => ?_)
    -- a string that holds a copy frees nothing
    rintro raw - address - ⟨field, hmem, howned⟩
    obtain rfl := mem_singleton.mp hmem
    cases field with
    | borrowed value => cases howned
    | borrowedMut value => exact hborrowed
    | clear value => exact hborrowed
  · obtain ⟨hraws, hfreed, hkept⟩ := fieldsIntoRaw_eq memory w.value
    have hdrop : w.drop memory = { (fieldsIntoRaw memory w.value).2 with
        structs := Function.update (fieldsIntoRaw memory w.value).2.structs output
          (w.value.map CefStringUtf16.toRaw) } := by
      rw [WrapParamRef.drop, houtput, ← hraws]
    have hfield : ∀ (i : Nat) (field : CefStringUtf16), w.value[i]? = some field →
        ((((w.drop memory).structs output)[i]?).map
          (fun raw => (CefStringUtf16.fromRaw raw).units (w.drop memory)) =
            some (field.units memory) ↔ Keeps memory w.value field) := by
      intro i field hi
      obtain ⟨text, htext⟩ :=
        ne_none_iff_exists'.mp (hfields field (mem_of_getElem? hi))
      have hstruct : (w.drop memory).structs output = w.value.map CefStringUtf16.toRaw := by
        rw [hdrop]
        exact Function.update_self ..
      rw [hstruct, getElem?_map, hi, map_some, map_some, htext, some_inj]
      have htexts : (w.drop memory).texts = (fieldsIntoRaw memory w.value).2.texts := by rw [hdrop]
      rw [← htexts] at hfreed hkept
      exact toRaw_units_iff hfreed hkept htext
    constructor
    · intro h field hmem
      obtain ⟨i, hi⟩ := getElem?_of_mem hmem
      exact (hfield i field hi).mp (h i field hi)
    · intro h i field hi
      exact (hfield i field hi).mpr (h field (mem_of_getElem? hi))

def letterMemory : Memory where
  texts := fun address => if address = 1 then some [97] else none
  strings := fun _ => .zeroed
  structs := fun _ => []

/-- An owned string loses its text. -/
theorem not_intoRaw_units : ¬ ∀ (memory : Memory) (s : CefStringUtf16), s.units memory ≠ none →
    (CefStringUtf16.fromRaw (s.intoRaw memory).1).units (s.intoRaw memory).2 = s.units memory := by
  intro h
  have hlost := h letterMemory (.clear (some ⟨some 1, 1, true⟩)) (by decide)
  exact absurd hlost (by decide)

def letterParam : WrapParamRef := ⟨[.fromRaw ⟨some 1, 1, true⟩, .borrowed none], some 5⟩

/-- A string that was left alone, and a struct with it and a string without text. -/
theorem writtenBack_iff_letter :
    (CefStringUtf16.fromRaw ((CefStringUtf16.fromRaw ⟨some 1, 1, true⟩).intoRaw letterMemory).1).units
      letterMemory = some [97] ∧
    ∀ (i : Nat) (field : CefStringUtf16), letterParam.value[i]? = some field →
      (((letterParam.drop letterMemory).structs 5)[i]?).map
        (fun raw => (CefStringUtf16.fromRaw raw).units (letterParam.drop letterMemory)) =
          some (field.units letterMemory) := by
  have hfields : ∀ field ∈ letterParam.value, field.units letterMemory ≠ none := by decide
  obtain ⟨hstring, hstruct⟩ := writtenBack_iff letterMemory (.fromRaw ⟨some 1, 1, true⟩) letterParam 5
    (by decide) rfl hfields
  refine ⟨hstring.mpr (.inl trivial), hstruct.mpr fun field hmem => ?_⟩
  have hfrees : ∀ address, ¬ Frees letterParam.value address := by
    rintro address ⟨field, hmem, howned⟩
    rcases mem_pair.mp hmem with rfl | rfl <;> cases howned
  rcases mem_pair.mp hmem with rfl | rfl
  · exact .inr ⟨trivial, fun _ _ address _ => hfrees address⟩
  · exact .inl rfl

end CefCore.Common.Strings
