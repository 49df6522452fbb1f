import CefCore.Foundations.ThreeWay
import Mathlib.Algebra.Group.Nat.Defs
import Mathlib.Data.List.Lex
import Mathlib.Data.Prod.Lex
import Mathlib.Data.ZMod.Defs
import Mathlib.Order.Fin.Basic

/-!
# The comparison of strings

`cef_string_wide_cmp`, `cef_string_utf8_cmp` and `cef_string_utf16_cmp` of
`libcef/common/string_types_impl.cc`. They compare as many units as both strings have by a function of
the C or C++ library, and then the lengths. The functions of the C library stop at a unit that is zero.

## Main results

* `cmp_orders_iff`: which of them order the strings by their units.

## Implementation notes

* A string is the list of its units, as many as its length says.
* Of the number that a library function returns only the sign is known.
* The units of a wide string have an order and a zero; nothing else is known of `wchar_t`.
-/

namespace CefCore.Common

open List

section

variable {α : Type} [LinearOrder α]

/-- The comparison of the first `n` units of two arrays, up to one that stops it. -/
def compareUnits (stops : α → Bool) : List α → List α → Nat → Int
  | a :: s, b :: t, n + 1 =>
    if a < b then -1 else if b < a then 1 else if stops a then 0 else compareUnits stops s t n
  | _, _, _ => 0

def cefStringCmp (compare : List α → List α → Nat → Int) (str1 str2 : List α) : Int :=
  if str1.length = 0 ∧ str2.length = 0 then 0
  else
    let r := compare str1 str2 (min str1.length str2.length)
    if r = 0 then
      if str1.length > str2.length then 1 else if str1.length < str2.length then -1 else r
    else r

end

def wcsncmp {W : Type} [LinearOrder W] [Zero W] : List W → List W → Nat → Int :=
  compareUnits (· = 0)

/-- `strncmp`, which takes its units for `unsigned char`. -/
def strncmp : List (Fin (2 ^ 8)) → List (Fin (2 ^ 8)) → Nat → Int := compareUnits (· = 0)

/-- `std::char_traits<char16_t>::compare`. -/
def charTraitsCompare : List (Fin (2 ^ 16)) → List (Fin (2 ^ 16)) → Nat → Int :=
  compareUnits fun _ => false

def cefStringWideCmp {W : Type} [LinearOrder W] [Zero W] : List W → List W → Int :=
  cefStringCmp wcsncmp

def cefStringUtf8Cmp : List (Fin (2 ^ 8)) → List (Fin (2 ^ 8)) → Int := cefStringCmp strncmp

def cefStringUtf16Cmp : List (Fin (2 ^ 16)) → List (Fin (2 ^ 16)) → Int :=
  cefStringCmp charTraitsCompare

section

variable {α : Type} {stops : α → Bool}

/-- The comparison is a total order of the strings, in which a string comes behind its beginnings. -/
structure Orders (compare : List α → List α → Int) (S : Set (List α)) : Prop
    extends ThreeWay.Total compare S where
  beginning : ∀ a ∈ S, ∀ b ∈ S, a <+: b → a ≠ b → compare a b < 0

/-- No two of the strings have the same length and the same beginning up to a unit that is zero. -/
def NoTwins [Zero α] (S : Set (List α)) : Prop :=
  ∀ a ∈ S, ∀ b ∈ S, a.length = b.length →
    (∃ k, a[k]? = some 0 ∧ a.take (k + 1) = b.take (k + 1)) → a = b

def cut (stops : α → Bool) : List α → List α
  | [] => []
  | a :: s => if stops a then [a] else a :: cut stops s

/-! ### Keys -/

def key (stops : α → Bool) (s : List α) : List α ×ₗ Nat := toLex (cut stops s, s.length)

lemma cut_of_stops {a : α} (h : stops a = true) (s : List α) : cut stops (a :: s) = [a] := if_pos h

lemma cut_of_not_stops {a : α} (h : stops a = false) (s : List α) :
    cut stops (a :: s) = a :: cut stops s := if_neg (Bool.eq_false_iff.mp h)

lemma exists_cut_cons (stops : α → Bool) (a : α) (s : List α) : ∃ rest,
    cut stops (a :: s) = a :: rest := by
  cases h : stops a with
  | true => exact ⟨[], cut_of_stops h s⟩
  | false => exact ⟨cut stops s, cut_of_not_stops h s⟩

variable [LinearOrder α]

lemma key_lt_key_iff {s t : List α} : key stops s < key stops t ↔
    cut stops s < cut stops t ∨ cut stops s = cut stops t ∧ s.length < t.length :=
  Prod.Lex.toLex_lt_toLex

lemma key_nil_lt (a : α) (s : List α) : key stops [] < key stops (a :: s) := by
  obtain ⟨rest, hrest⟩ := exists_cut_cons stops a s
  rw [key_lt_key_iff, hrest]
  exact .inl (nil_lt_cons a rest)

lemma key_cons_lt_key_cons (a b : α) (s t : List α) : key stops (a :: s) < key stops (b :: t) ↔
    a < b ∨ a = b ∧ if stops a then s.length < t.length else key stops s < key stops t := by
  by_cases hab : a = b
  · subst hab
    rw [or_iff_right (lt_irrefl a), and_iff_right rfl, key_lt_key_iff, length_cons,
      length_cons, Nat.add_lt_add_iff_right]
    cases hstops : stops a with
    | true =>
      rw [cut_of_stops hstops, cut_of_stops hstops, if_pos rfl, and_iff_right rfl,
        or_iff_right (lt_irrefl _)]
    | false =>
      rw [cut_of_not_stops hstops, cut_of_not_stops hstops, if_neg Bool.false_ne_true,
        key_lt_key_iff, cons_lt_cons_iff, or_iff_right (lt_irrefl a), and_iff_right rfl,
        cons_inj_right]
  · obtain ⟨x, hx⟩ := exists_cut_cons stops a s
    obtain ⟨y, hy⟩ := exists_cut_cons stops b t
    rw [key_lt_key_iff, hx, hy, cons_lt_cons_iff]
    simp [hab]

lemma cefStringCmp_cons (a b : α) (s t : List α) :
    cefStringCmp (compareUnits stops) (a :: s) (b :: t) =
      if a < b then -1 else if b < a then 1
      else if stops a then
        (if s.length > t.length then 1 else if s.length < t.length then -1 else 0)
      else cefStringCmp (compareUnits stops) s t := by
  have hmin : min (a :: s).length (b :: t).length = min s.length t.length + 1 := by
    rw [length_cons, length_cons, Nat.add_min_add_right]
  have hlength : ¬ ((a :: s).length = 0 ∧ (b :: t).length = 0) := fun h => Nat.noConfusion h.1
  have hrest : cefStringCmp (compareUnits stops) s t =
      let r := compareUnits stops s t (min s.length t.length)
      if r = 0 then if s.length > t.length then 1 else if s.length < t.length then -1 else r
      else r := by
    unfold cefStringCmp
    split
    · rename_i hnil
      rw [length_eq_zero_iff, length_eq_zero_iff] at hnil
      obtain ⟨rfl, rfl⟩ := hnil
      rfl
    · rfl
  rw [hrest, cefStringCmp, if_neg hlength, hmin, compareUnits]
  simp only [length_cons, gt_iff_lt, Nat.add_lt_add_iff_right]
  by_cases hlt : a < b
  · simp [hlt]
  · by_cases hgt : b < a
    · simp [hlt, hgt]
    · cases hstops : stops a with
      | true => simp [hlt, hgt]
      | false => simp [hlt, hgt]

/-- The sign of a comparison.

**Proof sketch.** Induction on the strings. If their first units are the same, then either they stop the
comparison and the lengths decide, or the rests do. -/
lemma sign_cefStringCmp : ∀ s t : List α,
    (cefStringCmp (compareUnits stops) s t < 0 ↔ key stops s < key stops t) ∧
      (0 < cefStringCmp (compareUnits stops) s t ↔ key stops t < key stops s)
  | [], [] => by simp [cefStringCmp]
  | [], b :: t => by
    have hcmp : cefStringCmp (compareUnits stops) [] (b :: t) = -1 := by
      simp [cefStringCmp, compareUnits]
    have hkey : key stops [] < key stops (b :: t) := key_nil_lt b t
    rw [hcmp]
    exact ⟨iff_of_true (by decide) hkey, iff_of_false (by decide) hkey.not_gt⟩
  | a :: s, [] => by
    have hcmp : cefStringCmp (compareUnits stops) (a :: s) [] = 1 := by
      simp [cefStringCmp, compareUnits]
    have hkey : key stops [] < key stops (a :: s) := key_nil_lt a s
    rw [hcmp]
    exact ⟨iff_of_false (by decide) hkey.not_gt, iff_of_true (by decide) hkey⟩
  | a :: s, b :: t => by
    rw [cefStringCmp_cons, key_cons_lt_key_cons, key_cons_lt_key_cons]
    rcases lt_trichotomy a b with hlt | rfl | hgt
    · simp [hlt, hlt.not_gt, hlt.ne']
    · cases hstops : stops a with
      | true =>
        rcases lt_trichotomy s.length t.length with hlength | hlength | hlength
        · simp [hlength, hlength.not_gt]
        · simp [hlength]
        · simp [hlength, hlength.not_gt]
      | false =>
        simpa using sign_cefStringCmp s t
    · simp [hgt, hgt.not_gt, hgt.ne']

theorem cefStringCmp_comparesBy :
    ThreeWay.ComparesBy (cefStringCmp (compareUnits stops)) (key stops) where
  neg_iff s t := (sign_cefStringCmp s t).1
  pos_iff s t := (sign_cefStringCmp s t).2

lemma key_lt_key_append (c : α) (d : List α) : ∀ s : List α, key stops s < key stops (s ++ c :: d)
  | [] => key_nil_lt c d
  | a :: s => by
    rw [cons_append, key_cons_lt_key_cons]
    refine .inr ⟨rfl, ?_⟩
    split
    · rw [length_append, length_cons]
      omega
    · exact key_lt_key_append c d s

lemma orders_iff_injOn {S : Set (List α)} :
    Orders (cefStringCmp (compareUnits stops)) S ↔ Set.InjOn (key stops) S := by
  rw [← cefStringCmp_comparesBy.total_iff]
  refine ⟨fun h => h.toTotal, fun h => ⟨h, ?_⟩⟩
  rintro a _ _ _ ⟨d, rfl⟩ hne
  rw [cefStringCmp_comparesBy.neg_iff]
  cases d with
  | nil => exact absurd (append_nil a).symm hne
  | cons c d => exact key_lt_key_append c d a

end

section

variable {α : Type} {stops : α → Bool}

lemma cut_of_never : ∀ s : List α, cut (fun _ => false) s = s
  | [] => rfl
  | a :: s => by rw [cut_of_not_stops rfl, cut_of_never s]

lemma cut_eq_cut_iff : ∀ {s t : List α}, s.length = t.length →
    (cut stops s = cut stops t ↔
      s = t ∨ ∃ k, s[k]?.any stops = true ∧ s.take (k + 1) = t.take (k + 1))
  | [], [], _ => by simp
  | a :: s, b :: t, h => by
    by_cases hab : a = b
    · subst hab
      cases hstops : stops a with
      | true =>
        rw [cut_of_stops hstops, cut_of_stops hstops]
        exact iff_of_true rfl (.inr ⟨0, hstops, rfl⟩)
      | false =>
        rw [cut_of_not_stops hstops, cut_of_not_stops hstops, cons_inj_right,
          cut_eq_cut_iff (Nat.succ.inj h), cons_inj_right]
        refine or_congr_right ?_
        constructor
        · rintro ⟨k, hk, htake⟩
          exact ⟨k + 1, hk, congrArg (a :: ·) htake⟩
        · rintro ⟨k, hk, htake⟩
          cases k with
          | zero => exact absurd hk (by simp [hstops])
          | succ k => exact ⟨k, hk, (cons.inj htake).2⟩
    · obtain ⟨x, hx⟩ := exists_cut_cons stops a s
      obtain ⟨y, hy⟩ := exists_cut_cons stops b t
      rw [hx, hy]
      refine iff_of_false (fun heq => hab (cons.inj heq).1) ?_
      rintro (heq | ⟨k, _, htake⟩)
      · exact hab (cons.inj heq).1
      · exact hab (cons.inj htake).1

lemma key_eq_key_iff {s t : List α} :
    key stops s = key stops t ↔ cut stops s = cut stops t ∧ s.length = t.length :=
  toLex.injective.eq_iff.trans Prod.mk_inj

lemma injOn_key_iff [DecidableEq α] [Zero α] {S : Set (List α)} :
    Set.InjOn (key (· = 0)) S ↔ NoTwins S := by
  have hzero (s : List α) (k : Nat) : s[k]?.any (· = 0) = true ↔ s[k]? = some 0 := by
    simp [Option.any_eq_true]
  constructor
  · rintro hinj a ha b hb hlength ⟨k, hk, htake⟩
    refine hinj ha hb (key_eq_key_iff.mpr ⟨?_, hlength⟩)
    exact (cut_eq_cut_iff hlength).mpr (.inr ⟨k, (hzero a k).mpr hk, htake⟩)
  · intro hno a ha b hb heq
    obtain ⟨hcut, hlength⟩ := key_eq_key_iff.mp heq
    rcases (cut_eq_cut_iff hlength).mp hcut with rfl | ⟨k, hk, htake⟩
    · rfl
    · exact hno a ha b hb hlength ⟨k, (hzero a k).mp hk, htake⟩

end

/-- **Which sets of strings are ordered**: those of wide strings and of UTF-8 strings in which no two
strings of the same length have the same beginning up to a unit that is zero, and all sets of UTF-16
strings. -/
theorem cmp_orders_iff {W : Type} [LinearOrder W] [Zero W] (wide : Set (List W))
    (utf8 : Set (List (Fin (2 ^ 8)))) (utf16 : Set (List (Fin (2 ^ 16)))) :
    (Orders cefStringWideCmp wide ↔ NoTwins wide) ∧ (Orders cefStringUtf8Cmp utf8 ↔ NoTwins utf8) ∧
      Orders cefStringUtf16Cmp utf16 := by
  refine ⟨orders_iff_injOn.trans injOn_key_iff, orders_iff_injOn.trans injOn_key_iff,
    orders_iff_injOn.mpr fun s _ t _ h => ?_⟩
  have hcut : cut (fun _ => false) s = cut (fun _ => false) t := (Prod.ext_iff.mp h).1
  rwa [cut_of_never, cut_of_never] at hcut

/-- Not all UTF-8 strings are ordered: two of them may differ behind a unit that is zero. -/
theorem not_orders_utf8 : ¬ Orders cefStringUtf8Cmp Set.univ := by
  intro h
  have hequal : cefStringUtf8Cmp [97, 0, 98] [97, 0, 99] = 0 := by decide
  have hsame := (h.eq_zero_iff [97, 0, 98] trivial [97, 0, 99] trivial).mp hequal
  exact absurd hsame (by decide)

end CefCore.Common
