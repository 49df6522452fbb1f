import Mathlib.Data.List.Basic

/-!
# UTF-8

A text in UTF-8 is a list of bytes that characters have been encoded into.

## Main results

* `valid_take_iff`: the part in front of a cut is a text exactly if the cut is not inside a
  character.
-/

namespace Utf8

open List

def encode (text : List Char) : List UInt8 := text.flatMap String.utf8EncodeChar

def Valid (s : List UInt8) : Prop := ∃ text, encode text = s

lemma encode_cons (c : Char) (text : List Char) :
    encode (c :: text) = String.utf8EncodeChar c ++ encode text := flatMap_cons

lemma encode_append (text rest : List Char) : encode (text ++ rest) = encode text ++ encode rest :=
  flatMap_append

lemma valid_nil : Valid [] := ⟨[], rfl⟩

lemma Valid.append {s t : List UInt8} (hs : Valid s) (ht : Valid t) : Valid (s ++ t) := by
  obtain ⟨text, rfl⟩ := hs
  obtain ⟨rest, rfl⟩ := ht
  exact ⟨text ++ rest, encode_append text rest⟩

lemma eq_of_encodeChar_append {c d : Char} {s t : List UInt8}
    (h : String.utf8EncodeChar c ++ s = String.utf8EncodeChar d ++ t) : c = d := by
  have hread : ∀ c s,
      (String.utf8EncodeChar c ++ s).toByteArray.utf8DecodeChar? 0 = some c := by
    intro c s
    rw [toByteArray_append]
    exact ByteArray.utf8DecodeChar?_utf8EncodeChar_append
  refine Option.some.inj ?_
  rw [← hread c s, h, hread]

lemma valid_encodeChar_append {c : Char} {s : List UInt8} :
    Valid (String.utf8EncodeChar c ++ s) ↔ Valid s := by
  constructor
  · rintro ⟨text, htext⟩
    cases text with
    | nil => exact absurd (append_eq_nil_iff.mp htext.symm).1 String.utf8EncodeChar_ne_nil
    | cons d text =>
      rw [encode_cons] at htext
      obtain rfl := eq_of_encodeChar_append htext
      exact ⟨text, append_cancel_left htext⟩
  · rintro ⟨text, rfl⟩
    exact ⟨c :: text, encode_cons c text⟩

lemma not_valid_take_encodeChar {c : Char} {k : Nat} (hpos : 0 < k)
    (hk : k < (String.utf8EncodeChar c).length) : ¬ Valid ((String.utf8EncodeChar c).take k) := by
  rintro ⟨text, htext⟩
  have hlength := congrArg List.length htext
  rw [length_take, Nat.min_eq_left (Nat.le_of_lt hk)] at hlength
  cases text with
  | nil =>
    rw [← hlength] at hpos
    exact absurd hpos (Nat.lt_irrefl 0)
  | cons d text =>
    rw [encode_cons, length_append] at hlength
    have happend : String.utf8EncodeChar d ++ (encode text ++ (String.utf8EncodeChar c).drop k) =
        String.utf8EncodeChar c ++ [] := by
      rw [← append_assoc, ← encode_cons, htext, take_append_drop, append_nil]
    obtain rfl := eq_of_encodeChar_append happend
    omega

/-- **A text may be cut** at its end and in front of a byte that a character begins with.

**Proof sketch.** Induction on the characters. A cut inside the first one leaves a part of it. A cut
behind it is a cut of the rest. -/
theorem valid_take_iff {s : List UInt8} (h : Valid s) (k : Nat) :
    Valid (s.take k) ↔ s.length ≤ k ∨ ∃ b, s[k]? = some b ∧ b.IsUTF8FirstByte := by
  obtain ⟨text, rfl⟩ := h
  induction text generalizing k with
  | nil => exact iff_of_true ((take_nil (i := k)).symm ▸ valid_nil) (.inl (Nat.zero_le k))
  | cons c text ih =>
    rw [encode_cons]
    by_cases hk : k < (String.utf8EncodeChar c).length
    · have hbyte : (String.utf8EncodeChar c ++ encode text)[k]? =
          some (String.utf8EncodeChar c)[k] := by
        rw [getElem?_append_left hk, getElem?_eq_getElem hk]
      have hfirst : (∃ b, (String.utf8EncodeChar c ++ encode text)[k]? = some b ∧
          b.IsUTF8FirstByte) ↔ k = 0 := by
        rw [hbyte]
        simp
      rw [hfirst, take_append_of_le_length (Nat.le_of_lt hk)]
      cases k with
      | zero => exact iff_of_true valid_nil (.inr rfl)
      | succ k =>
        refine iff_of_false (not_valid_take_encodeChar k.succ_pos hk) ?_
        rw [length_append]
        omega
    · rw [Nat.not_lt] at hk
      obtain ⟨rest, rfl⟩ := Nat.exists_eq_add_of_le hk
      rw [take_length_add_append, valid_encodeChar_append, ih rest,
        getElem?_append_right hk, Nat.add_sub_cancel_left, length_append]
      exact or_congr_left (by omega)

end Utf8
