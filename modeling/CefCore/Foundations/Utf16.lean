import Mathlib.Data.List.Basic

/-!
# UTF-16

A UTF-16 string is any list of code units. Reading it gives characters and, where the string is
not well formed, code units that are surrogates without a partner. A conversion that cannot fail
puts the replacement character in their places.

## Main results

* `decode_encode`, `encode_lossy_iff`: reading what has been written.
-/

namespace Utf16

open List

/-- The first unit of a surrogate pair. -/
def IsLead (u : UInt16) : Prop := 0xD800 ≤ u.toNat ∧ u.toNat < 0xDC00

/-- The second unit of a surrogate pair. -/
def IsTrail (u : UInt16) : Prop := 0xDC00 ≤ u.toNat ∧ u.toNat < 0xE000

instance (u : UInt16) : Decidable (IsLead u) := inferInstanceAs (Decidable (_ ∧ _))

instance (u : UInt16) : Decidable (IsTrail u) := inferInstanceAs (Decidable (_ ∧ _))

def encodeChar (c : Char) : List UInt16 :=
  if c.toNat < 0x10000 then [UInt16.ofNat c.toNat]
  else [UInt16.ofNat (0xD800 + (c.toNat - 0x10000) / 0x400),
    UInt16.ofNat (0xDC00 + (c.toNat - 0x10000) % 0x400)]

def encode (text : List Char) : List UInt16 := text.flatMap encodeChar

/-- What a reader finds next in a UTF-16 string. -/
inductive Item where
  | char (c : Char)
  | unpaired (unit : UInt16)

namespace Item

def units : Item → List UInt16
  | .char c => encodeChar c
  | .unpaired u => [u]

def IsChar : Item → Prop
  | .char _ => True
  | .unpaired _ => False

instance (item : Item) : Decidable item.IsChar :=
  match item with
  | .char _ => isTrue trivial
  | .unpaired _ => isFalse id

def toChar : Item → Char
  | .char c => c
  | .unpaired _ => '\uFFFD'

end Item

/-- A code unit that is not read as the first of a pair. -/
def single (u : UInt16) : Item :=
  if IsLead u ∨ IsTrail u then .unpaired u else .char (Char.ofNat u.toNat)

def pair (u v : UInt16) : Char :=
  Char.ofNat (0x10000 + (u.toNat - 0xD800) * 0x400 + (v.toNat - 0xDC00))

def decode : List UInt16 → List Item
  | [] => []
  | [u] => [single u]
  | u :: v :: us =>
    if IsLead u ∧ IsTrail v then .char (pair u v) :: decode us
    else single u :: decode (v :: us)

def WellFormed (us : List UInt16) : Prop := ∀ item ∈ decode us, item.IsChar

instance (us : List UInt16) : Decidable (WellFormed us) :=
  inferInstanceAs (Decidable (∀ item ∈ _, _))

/-- The text with each unpaired surrogate replaced by U+FFFD. -/
def lossy (us : List UInt16) : List Char := (decode us).map Item.toChar

/-! ### Reading back -/

variable {c : Char} {u v : UInt16} {us : List UInt16} {text : List Char}

lemma toNat_char (c : Char) : c.toNat < 0xD800 ∨ 0xDFFF < c.toNat ∧ c.toNat < 0x110000 := c.valid

lemma toNat_ofNat {n : Nat} (h : n < 0xD800 ∨ 0xDFFF < n ∧ n < 0x110000) :
    (Char.ofNat n).toNat = n := by
  rw [Char.ofNat, dif_pos h]
  rfl

lemma decode_cons (h : ¬ IsLead u) (us : List UInt16) :
    decode (u :: us) = single u :: decode us := by
  cases us with
  | nil => rfl
  | cons v us => rw [decode, if_neg fun hp => h hp.1]

lemma decode_encodeChar_append (c : Char) (us : List UInt16) :
    decode (encodeChar c ++ us) = .char c :: decode us := by
  have hc := toNat_char c
  unfold encodeChar
  split
  · rename_i hsmall
    have hunit : (UInt16.ofNat c.toNat).toNat = c.toNat := UInt16.toNat_ofNat_of_lt hsmall
    have hlead : ¬ IsLead (UInt16.ofNat c.toNat) := by
      rw [IsLead, hunit]
      omega
    have htrail : ¬ IsTrail (UInt16.ofNat c.toNat) := by
      rw [IsTrail, hunit]
      omega
    rw [singleton_append, decode_cons hlead, single, if_neg (not_or.mpr ⟨hlead, htrail⟩),
      hunit, Char.ofNat_toNat]
  · rename_i hbig
    set high := 0xD800 + (c.toNat - 0x10000) / 0x400 with hhigh
    set low := 0xDC00 + (c.toNat - 0x10000) % 0x400 with hlow
    have hu : (UInt16.ofNat high).toNat = high :=
      UInt16.toNat_ofNat_of_lt (show high < 2 ^ 16 by omega)
    have hv : (UInt16.ofNat low).toNat = low :=
      UInt16.toNat_ofNat_of_lt (show low < 2 ^ 16 by omega)
    have hpair : IsLead (UInt16.ofNat high) ∧ IsTrail (UInt16.ofNat low) := by
      rw [IsLead, IsTrail, hu, hv]
      omega
    have hchar : pair (UInt16.ofNat high) (UInt16.ofNat low) = c := by
      have hsum : 0x10000 + (high - 0xD800) * 0x400 + (low - 0xDC00) = c.toNat := by omega
      rw [pair, hu, hv, hsum, Char.ofNat_toNat]
    rw [cons_append, singleton_append, decode, if_pos hpair, hchar]

theorem decode_encode (text : List Char) : decode (encode text) = text.map Item.char := by
  induction text with
  | nil => rfl
  | cons c text ih =>
    rw [encode, flatMap_cons, decode_encodeChar_append, map_cons, ← encode, ih]

lemma wellFormed_encode (text : List Char) : WellFormed (encode text) := by
  intro item h
  rw [decode_encode] at h
  obtain ⟨c, -, rfl⟩ := mem_map.mp h
  exact True.intro

lemma lossy_encode (text : List Char) : lossy (encode text) = text := by
  rw [lossy, decode_encode, map_map]
  exact map_id text

/-! ### Reading loses nothing -/

lemma units_single (u : UInt16) : (single u).units = [u] := by
  unfold single
  split
  · rfl
  · rename_i h
    have hu := u.toNat_lt
    have hnot : ¬ (0xD800 ≤ u.toNat ∧ u.toNat < 0xE000) := by
      simp only [IsLead, IsTrail, not_or] at h
      omega
    have hnat : (Char.ofNat u.toNat).toNat = u.toNat := toNat_ofNat (by omega)
    rw [Item.units, encodeChar, hnat, if_pos hu, UInt16.ofNat_toNat]

lemma encodeChar_pair (h : IsLead u ∧ IsTrail v) : encodeChar (pair u v) = [u, v] := by
  obtain ⟨⟨hu, hu'⟩, hv, hv'⟩ := h
  have hnat : (pair u v).toNat = 0x10000 + (u.toNat - 0xD800) * 0x400 + (v.toNat - 0xDC00) :=
    toNat_ofNat (by omega)
  have hhigh : 0xD800 + ((pair u v).toNat - 0x10000) / 0x400 = u.toNat := by omega
  have hlow : 0xDC00 + ((pair u v).toNat - 0x10000) % 0x400 = v.toNat := by omega
  rw [encodeChar, if_neg (by omega), hhigh, hlow, UInt16.ofNat_toNat, UInt16.ofNat_toNat]

/-- **Reading loses nothing**: the units of the items are those of the string.

**Proof sketch.** Induction along the reader, which consumes two units or one. -/
theorem flatMap_units_decode (us : List UInt16) : (decode us).flatMap Item.units = us := by
  induction us using decode.induct with
  | case1 => rfl
  | case2 u => simp [decode, units_single]
  | case3 u v us h ih =>
    rw [decode, if_pos h, flatMap_cons, ih, Item.units, encodeChar_pair h]
    rfl
  | case4 u v us h ih =>
    rw [decode, if_neg h, flatMap_cons, ih, units_single]
    rfl

lemma lossy_eq_nil : lossy us = [] ↔ us = [] := by
  constructor
  · intro h
    have hnil : decode us = [] := map_eq_nil_iff.mp h
    rw [← flatMap_units_decode us, hnil]
    rfl
  · rintro rfl
    rfl

/-- **The text with replacements** has the code units of the string exactly if the string is well
formed. -/
theorem encode_lossy_iff : encode (lossy us) = us ↔ WellFormed us := by
  constructor
  · intro h
    rw [← h]
    exact wellFormed_encode _
  · intro h
    have hunits : ∀ item ∈ decode us, encodeChar item.toChar = item.units := by
      intro item hitem
      cases item with
      | char c => rfl
      | unpaired u => exact (h _ hitem).elim
    rw [encode, lossy, flatMap_map]
    calc (decode us).flatMap (fun item => encodeChar item.toChar)
        = (decode us).flatMap Item.units := flatMap_congr hunits
      _ = us := flatMap_units_decode us

end Utf16
