import CefCore.Browser.ActionTrace
import CefCore.Browser.SnapshotFormatter
import CefCore.Foundations.Utf8

/-!
# Texts that are cut

The trace of an agent and the tables of a snapshot cut texts that are too long, each with a function
`Truncate` of its own. The two are the same function. They cut between two bytes, and a text in UTF-8
may have one character on both sides of the cut.

## Main results

* `truncate_isTruncation_iff`: when what is left is text.
-/

namespace CefCore.Browser.Truncation

open List

/-- The bytes of a `std::string`. -/
abbrev Bytes := List UInt8

structure IsTruncation (s : Bytes) (maxLen : Nat) (t : Bytes) : Prop where
  valid : Utf8.Valid t
  length_le : t.length ≤ maxLen
  eq_of_short : s.length ≤ maxLen → t = s
  of_long : maxLen < s.length →
    ∃ front, front <+: s ∧ (t = front ∨ t = front ++ SnapshotFormatter.text "...")

/-- The number of bytes that remain of a text that is too long. -/
def cut (maxLen : Nat) : Nat := if maxLen ≤ 3 then maxLen else maxLen - 3

variable {s : Bytes} {maxLen : Nat}

lemma actionTrace_truncate_eq :
    ActionTrace.truncate s maxLen = SnapshotFormatter.truncate s maxLen := rfl

lemma truncate_of_short (h : s.length ≤ maxLen) : SnapshotFormatter.truncate s maxLen = s := if_pos h

lemma truncate_of_long (h : maxLen < s.length) : ∃ dots : Bytes,
    SnapshotFormatter.truncate s maxLen = s.take (cut maxLen) ++ dots ∧
      (dots = [] ∨ dots = SnapshotFormatter.text "...") ∧ cut maxLen + dots.length = maxLen := by
  rw [SnapshotFormatter.truncate, if_neg (Nat.not_le.mpr h), cut]
  by_cases hsmall : maxLen ≤ 3
  · rw [if_pos hsmall, if_pos hsmall]
    exact ⟨[], (append_nil _).symm, .inl rfl, rfl⟩
  · rw [if_neg hsmall, if_neg hsmall]
    refine ⟨SnapshotFormatter.text "...", rfl, .inr rfl, ?_⟩
    have hdots : (SnapshotFormatter.text "...").length = 3 := rfl
    omega

lemma valid_append_dots_iff {t dots : Bytes}
    (hdots : dots = [] ∨ dots = SnapshotFormatter.text "...") :
    Utf8.Valid (t ++ dots) ↔ Utf8.Valid t := by
  rcases hdots with rfl | rfl
  · rw [append_nil]
  · have hvalid : Utf8.Valid (SnapshotFormatter.text "...") := ⟨['.', '.', '.'], rfl⟩
    constructor
    · intro h
      have hdot : (t ++ SnapshotFormatter.text "...")[t.length]? = some 46 := by
        simp [SnapshotFormatter.text]
      have hcut := (Utf8.valid_take_iff h t.length).mpr (.inr ⟨46, hdot, by decide⟩)
      rwa [take_left] at hcut
    · exact fun h => h.append hvalid

lemma valid_truncate_iff (hs : Utf8.Valid s) : Utf8.Valid (SnapshotFormatter.truncate s maxLen) ↔
    s.length ≤ maxLen ∨ ∃ b, s[cut maxLen]? = some b ∧ b.IsUTF8FirstByte := by
  rcases Nat.lt_or_ge maxLen s.length with hlong | hshort
  · obtain ⟨dots, htruncate, hdots, hlength⟩ := truncate_of_long hlong
    rw [htruncate, valid_append_dots_iff hdots, Utf8.valid_take_iff hs]
    refine or_congr_left (iff_of_false ?_ (Nat.not_le.mpr hlong))
    omega
  · rw [truncate_of_short hshort]
    exact iff_of_true hs (.inl hshort)

lemma isTruncation_iff_valid : IsTruncation s maxLen (SnapshotFormatter.truncate s maxLen) ↔
    Utf8.Valid (SnapshotFormatter.truncate s maxLen) := by
  refine ⟨IsTruncation.valid, fun hvalid => ?_⟩
  rcases Nat.lt_or_ge maxLen s.length with hlong | hshort
  · obtain ⟨dots, htruncate, hdots, hlength⟩ := truncate_of_long hlong
    exact {
      valid := hvalid
      length_le := by
        rw [htruncate, length_append, length_take]
        omega
      eq_of_short := fun hshort => absurd hshort (Nat.not_le.mpr hlong)
      of_long := fun _ => by
        refine ⟨s.take (cut maxLen), take_prefix _ s, ?_⟩
        rw [htruncate]
        exact hdots.imp (fun h => by rw [h, append_nil]) fun h => by rw [h] }
  · exact {
      valid := hvalid
      length_le := (truncate_of_short hshort).symm ▸ hshort
      eq_of_short := truncate_of_short
      of_long := fun hlong => absurd hshort (Nat.not_le.mpr hlong) }

/-- **When a text is cut as it should**: exactly if it is short enough, or if a character begins behind
the cut. -/
theorem truncate_isTruncation_iff (s : Bytes) (maxLen : Nat) (hs : Utf8.Valid s) :
    (IsTruncation s maxLen (ActionTrace.truncate s maxLen) ↔
      s.length ≤ maxLen ∨ ∃ b, s[cut maxLen]? = some b ∧ b.IsUTF8FirstByte) ∧
    (IsTruncation s maxLen (SnapshotFormatter.truncate s maxLen) ↔
      s.length ≤ maxLen ∨ ∃ b, s[cut maxLen]? = some b ∧ b.IsUTF8FirstByte) := by
  rw [actionTrace_truncate_eq, isTruncation_iff_valid, valid_truncate_iff hs]
  exact ⟨Iff.rfl, Iff.rfl⟩

/-- A character of two bytes, some times. -/
def accents (n : Nat) : Bytes := Utf8.encode (List.replicate n 'é')

/-- Of two characters one is kept. -/
theorem truncate_isTruncation_iff_accents :
    (IsTruncation (accents 2) 2 (ActionTrace.truncate (accents 2) 2) ↔
      (accents 2).length ≤ 2 ∨ ∃ b, (accents 2)[cut 2]? = some b ∧ b.IsUTF8FirstByte) ∧
    (IsTruncation (accents 2) 2 (SnapshotFormatter.truncate (accents 2) 2) ↔
      (accents 2).length ≤ 2 ∨ ∃ b, (accents 2)[cut 2]? = some b ∧ b.IsUTF8FirstByte) :=
  truncate_isTruncation_iff (accents 2) 2 ⟨_, rfl⟩

/-- Characters of two bytes are cut in halves, by the limits of the trace and of the tables. -/
theorem not_truncate_isTruncation :
    Utf8.Valid (accents 41) ∧ ¬ IsTruncation (accents 41) 80 (ActionTrace.truncate (accents 41) 80) ∧
    Utf8.Valid (accents 26) ∧
      ¬ IsTruncation (accents 26) 50 (SnapshotFormatter.truncate (accents 26) 50) := by
  have hvalid : ∀ n, Utf8.Valid (accents n) := fun n => ⟨_, rfl⟩
  refine ⟨hvalid 41, fun h => ?_, hvalid 26, fun h => ?_⟩
  · rcases (valid_truncate_iff (hvalid 41)).mp h.valid with hlength | ⟨b, hb, hfirst⟩
    · exact absurd hlength (by decide)
    · have hbyte : (accents 41)[cut 80]? = some 169 := rfl
      obtain rfl := Option.some.inj (hbyte.symm.trans hb)
      exact absurd hfirst (by decide)
  · rcases (valid_truncate_iff (hvalid 26)).mp h.valid with hlength | ⟨b, hb, hfirst⟩
    · exact absurd hlength (by decide)
    · have hbyte : (accents 26)[cut 50]? = some 169 := rfl
      obtain rfl := Option.some.inj (hbyte.symm.trans hb)
      exact absurd hfirst (by decide)

end CefCore.Browser.Truncation
