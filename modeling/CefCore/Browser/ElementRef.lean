import CefCore.Browser.SnapshotTables
import CefCore.Foundations.MachineInt
import CefCore.Foundations.TextMarks

/-!
# Element references

`CefElementRefIndex` of `libcef/browser/element_ref.cc` has the elements of a page, which are known by
their numbers. It writes one line for each of them, and finds the element that a text names. The tree of
`CefSnapshotFormatter` has one line for each element as well.

## Main results

* `unforged_iff`: when no text of an element is taken for a reference to another one.

## Implementation notes

* `base::StringToInt` is a parameter.
* A string that `%s` prints ends in front of its first null byte.
* A line of `BuildRefText` is read from its front, and in a line of the tree the first reference counts
  that finds an element.
-/

namespace CefCore.Browser.SnapshotFormatter

open MachineInt List Option Decimal

/-! ### The source -/

def kMaxNameLength : Nat := 50

def truncateName (name : Bytes) : Bytes :=
  if name.length ≤ kMaxNameLength then name else name.take (kMaxNameLength - 3) ++ text "..."

/-- What `%s` prints. -/
def cStr (s : Bytes) : Bytes := s.takeWhile fun b => b ≠ 0

/-- The line of an element in `BuildRefText`. -/
def refLine (ref : CefElementRef) : Bytes :=
  text "[" ++ Decimal.ofInt ref.id ++ text "] @e" ++ Decimal.ofInt ref.id ++ text " " ++
    cStr ref.role ++
    -- Add the element name if present.
    (if ref.name ≠ [] then text " \"" ++ cStr (truncateName ref.name) ++ text "\"" else []) ++
    -- Add extra annotations for relevant properties.
    (if ref.inputType ≠ [] then text " type=" ++ cStr ref.inputType else []) ++
    (if ref.disabled then text " [disabled]" else []) ++
    (if ref.focused then text " [focused]" else [])

def buildRefText (refs : List CefElementRef) : Bytes :=
  refs.foldl (fun result ref => result ++ refLine ref ++ text "\n") []

/-- The part of a text that is the number, in `ParseRefId`. -/
def numStr (refStr : Bytes) : Bytes :=
  -- Handle "@e5" format.
  if refStr.length > 2 ∧ refStr[0]? = some 64 ∧ refStr[1]? = some 101 then refStr.drop 2
  -- Handle "e5" format.
  else if refStr.length > 1 ∧ refStr[0]? = some 101 then refStr.drop 1
  -- Handle "5" format (plain number).
  else refStr

def parseRefId (stringToInt : Bytes → Option Int) (refStr : Bytes) : Int :=
  if refStr = [] then -1
  else match stringToInt (numStr refStr) with
    | some id => if id ≤ 0 then -1 else id
    | none => -1

structure CefElementRefIndex where
  refs : List CefElementRef := []
  generation : UInt64 := 0

namespace CefElementRefIndex

def setRefs (index : CefElementRefIndex) (refs : List CefElementRef) : CefElementRefIndex :=
  { refs, generation := index.generation + 1 }

def getRef (index : CefElementRefIndex) (id : Int) : Option CefElementRef :=
  if id < 1 ∨ id.toNat > index.refs.length then none else index.refs[(id - 1).toNat]?

def getRefByString (stringToInt : Bytes → Option Int) (index : CefElementRefIndex) (refStr : Bytes) :
    Option CefElementRef :=
  let id := parseRefId stringToInt refStr
  if id ≤ 0 then none else index.getRef id

end CefElementRefIndex

/-! ### What is written and found -/

/-- Each line is that of its element, and of no other one. -/
def HasLines (isLine : CefElementRef → Bytes → Prop) (refs : List CefElementRef) (out : Bytes) : Prop :=
  ∃ lines, out.splitOn 10 = lines ++ [[]] ∧
    List.Forall₂ (fun ref line => isLine ref line ∧
      ∀ other ∈ refs, isLine other line → other.id = ref.id) refs lines

/-- A line of `BuildRefText` begins with the reference of the element. -/
def IsRefLine (ref : CefElementRef) (line : Bytes) : Prop :=
  text "[" ++ Decimal.ofInt ref.id ++ text "] @e" ++ Decimal.ofInt ref.id ++ text " " <+: line

/-- A reference in the tree. -/
def mark (num : Bytes) : Bytes := text " [ref=e" ++ num ++ text "]"

def ownMark (ref : CefElementRef) : Bytes := mark (Decimal.ofInt ref.id)

/-- A reference in the tree that finds another element. -/
def OtherMark (stringToInt : Bytes → Option Int) (index : CefElementRefIndex) (ref : CefElementRef)
    (w : Bytes) : Prop :=
  ∃ num other, w = mark num ∧ num.all Decimal.isDigit = true ∧
    index.getRefByString stringToInt (text "e" ++ num) = some other ∧ other.id ≠ ref.id

/-- A line of the tree has the reference of the element, in front of all that find another one. -/
def IsTreeLine (stringToInt : Bytes → Option Int) (index : CefElementRefIndex) (ref : CefElementRef)
    (line : Bytes) : Prop :=
  ownMark ref <:+: line ∧ TextMarks.First (ownMark ref) (OtherMark stringToInt index ref) line

def refStrings (num : Bytes) : List Bytes := [text "@e" ++ num, text "e" ++ num, num]

/-- A text names a number, in one of the three forms. -/
def ParsesTo (stringToInt : Bytes → Option Int) (refStr : Bytes) (k : Int) : Prop :=
  ∃ num, refStr ∈ refStrings num ∧ stringToInt num = some k

/-- **References are not forged**: the lines are those of the elements, and none of them reads as that of
another element; the texts that name the number of an element find it, and no text that does not name
such a number finds one. -/
structure Unforged (stringToInt : Bytes → Option Int) (index : CefElementRefIndex) : Prop where
  refText : HasLines IsRefLine index.refs (buildRefText index.refs)
  tree : HasLines (IsTreeLine stringToInt index) index.refs (formatAsTree index.refs)
  found : ∀ (i : Nat) ref, index.refs[i]? = some ref →
    ∀ refStr ∈ refStrings (Decimal.ofInt (i + 1)), index.getRefByString stringToInt refStr = some ref
  notFound : ∀ refStr, (∀ k : Int, 1 ≤ k → k ≤ index.refs.length → ¬ ParsesTo stringToInt refStr k) →
    index.getRefByString stringToInt refStr = none

/-- No text of an element breaks a line, as far as it is seen. -/
def Unbroken (ref : CefElementRef) : Prop :=
  ∀ t ∈ [ref.role, visible ref.name, visible ref.value, ref.inputType], 10 ∉ t

/-- The first reference in the role, and then in the name as far as it is seen, that finds an element is
the own one, if there is one. -/
def Unmarked (stringToInt : Bytes → Option Int) (index : CefElementRefIndex) (ref : CefElementRef) :
    Prop :=
  TextMarks.First (ownMark ref) (OtherMark stringToInt index ref) (text " " ++ ref.role) ∧
    (ownMark ref <:+: text " " ++ ref.role ∨
      TextMarks.First (ownMark ref) (OtherMark stringToInt index ref) (visible ref.name))

/-! ### Lines -/

lemma foldl_endLines (line : CefElementRef → Bytes) (refs : List CefElementRef) (out : Bytes) :
    refs.foldl (fun out ref => out ++ (line ref ++ [10])) out = out ++ endLines (refs.map line) := by
  induction refs generalizing out with
  | nil => exact (append_nil out).symm
  | cons ref refs ih =>
    rw [foldl_cons, ih, map_cons, endLines, endLines, flatMap_cons, append_assoc]

variable {ref : CefElementRef} {refStr : Bytes} {refs : List CefElementRef}

lemma hasLines_iff {isLine : CefElementRef → Bytes → Prop} {line : CefElementRef → Bytes} :
    HasLines isLine refs (endLines (refs.map line)) ↔ (∀ ref ∈ refs, 10 ∉ line ref) ∧
      ∀ ref ∈ refs, isLine ref (line ref) ∧
        ∀ other ∈ refs, isLine other (line ref) → other.id = ref.id := by
  -- without line breaks in them the lines are those that have been written
  have hsplit : (∀ ref ∈ refs, 10 ∉ line ref) →
      (endLines (refs.map line)).splitOn 10 = refs.map line ++ [[]] := by
    intro h
    refine splitOnP_flatMap_append (p := (· == 10)) rfl fun l hl b hb => ?_
    obtain ⟨ref, href, rfl⟩ := mem_map.mp hl
    rw [beq_eq_false_iff_ne]
    rintro rfl
    exact h ref href hb
  constructor
  · rintro ⟨lines, hlines, hall⟩
    have hunbroken : ∀ ref ∈ refs, 10 ∉ line ref := by
      intro ref href hbreak
      -- there are as many line breaks as elements
      have hp : (fun b => b == 10) = isLineBreak false := by
        funext b
        by_cases hb : b = 10 <;> simp [isLineBreak, hb]
      have hcount := congrArg List.length hlines
      rw [List.splitOn, length_splitOnP_eq, hp, countP_endLines, length_append, length_map,
        ← hall.length_eq, length_singleton, Nat.add_right_cancel_iff, Nat.add_eq_left] at hcount
      have hzero := List.sum_eq_zero_iff_forall_eq_nat.mp hcount _
        (mem_map_of_mem (mem_map_of_mem href))
      exact absurd rfl (countP_eq_zero.mp hzero 10 hbreak)
    obtain rfl := append_cancel_right (hlines.symm.trans (hsplit hunbroken))
    rw [forall₂_map_right_iff, forall₂_same] at hall
    exact ⟨hunbroken, hall⟩
  · rintro ⟨hunbroken, hall⟩
    refine ⟨refs.map line, hsplit hunbroken, ?_⟩
    rw [forall₂_map_right_iff, forall₂_same]
    exact hall

def treeBody (ref : CefElementRef) : Bytes :=
  text "- " ++ ref.role ++
    (if ref.name ≠ [] then text " \"" ++ truncate ref.name maxLenDefault ++ text "\"" else []) ++
    ownMark ref ++
    (if ref.value ≠ [] then
      text " [value=\"" ++ truncate ref.value maxLenDefault ++ text "\"]" else []) ++
    (if ref.inputType ≠ [] then text " [type=" ++ ref.inputType ++ text "]" else []) ++
    (if ref.disabled then text " [disabled]" else []) ++
    (if ref.focused then text " [focused]" else [])

lemma formatAsTree_eq (refs : List CefElementRef) :
    formatAsTree refs = endLines (refs.map treeBody) := by
  have hline : ∀ ref, treeLine ref = treeBody ref ++ [10] := fun ref => by
    have htext : text "\n" = [10] := rfl
    simp [treeLine, treeBody, ownMark, mark, htext]
  have hfold := foldl_endLines treeBody refs []
  simp only [← hline, nil_append] at hfold
  exact hfold

lemma buildRefText_eq (refs : List CefElementRef) :
    buildRefText refs = endLines (refs.map refLine) := by
  have hline : text "\n" = [10] := rfl
  have hfold := foldl_endLines refLine refs []
  simp only [nil_append] at hfold
  simp only [buildRefText, hline, append_assoc]
  exact hfold

lemma isRefLine_refLine (ref : CefElementRef) : IsRefLine ref (refLine ref) := by
  unfold IsRefLine refLine
  iterate 4 refine List.IsPrefix.trans ?_ (prefix_append _ _)
  exact prefix_append _ _

lemma ownMark_infix_treeBody (ref : CefElementRef) : ownMark ref <:+: treeBody ref := by
  unfold treeBody
  iterate 4 refine List.IsInfix.trans ?_ (prefix_append _ _).isInfix
  exact (suffix_append _ _).isInfix

/-! ### Line breaks -/

lemma notMem_text {s : String} (hs : (text s).all isPlain = true) : 10 ∉ text s := fun h =>
  absurd (isPlain_of_mem_text hs h) (by decide)

lemma notMem_ofInt (i : Int) : 10 ∉ Decimal.ofInt i := fun h =>
  absurd (isPlain_of_mem_ofInt h) (by decide)

lemma notMem_ite_text {c : Prop} [Decidable c] {s : String} (hs : (text s).all isPlain = true) :
    10 ∉ if c then text s else [] := by
  split
  · exact notMem_text hs
  · exact not_mem_nil

lemma notMem_ite_iff {t u out : Bytes} (hu : t = [] → 10 ∉ u) (hout : 10 ∉ out ↔ 10 ∉ u) :
    (10 ∉ if t ≠ [] then out else []) ↔ 10 ∉ u := by
  by_cases ht : t = []
  · rw [if_neg (not_not.mpr ht)]
    exact iff_of_true not_mem_nil (hu ht)
  · rw [if_pos ht]
    exact hout

lemma notMem_between_iff (before after : String) (hbefore : (text before).all isPlain = true)
    (hafter : (text after).all isPlain = true) (u : Bytes) :
    10 ∉ text before ++ u ++ text after ↔ 10 ∉ u := by
  simp [notMem_text hbefore, notMem_text hafter]

lemma notMem_treeBody_iff : 10 ∉ treeBody ref ↔
    10 ∉ ref.role ∧ 10 ∉ truncate ref.name maxLenDefault ∧ 10 ∉ truncate ref.value maxLenDefault ∧
      10 ∉ ref.inputType := by
  have hempty : ∀ t, t = [] → 10 ∉ truncate t maxLenDefault := by
    rintro t rfl
    exact not_mem_nil
  have hname := notMem_ite_iff (hempty ref.name) (notMem_between_iff " \"" "\"" rfl rfl _)
  have hvalue := notMem_ite_iff (hempty ref.value) (notMem_between_iff " [value=\"" "\"]" rfl rfl _)
  have htype := notMem_ite_iff (t := ref.inputType) (fun h => h ▸ not_mem_nil)
    (notMem_between_iff " [type=" "]" rfl rfl ref.inputType)
  have hid : 10 ∉ ownMark ref :=
    (notMem_between_iff " [ref=e" "]" rfl rfl _).mpr (notMem_ofInt ref.id)
  have hfirst : 10 ∉ text "- " := notMem_text rfl
  have hdisabled : 10 ∉ if ref.disabled = true then text " [disabled]" else [] := notMem_ite_text rfl
  have hfocused : 10 ∉ if ref.focused = true then text " [focused]" else [] := notMem_ite_text rfl
  unfold treeBody
  rw [mem_append, mem_append, mem_append, mem_append, mem_append, mem_append, mem_append]
  simp only [not_or, hfirst, hname, hid, hvalue, htype, hdisabled, hfocused, not_false_eq_true,
    true_and, and_true, and_assoc]

lemma notMem_refLine_iff : 10 ∉ refLine ref ↔
    10 ∉ cStr ref.role ∧ 10 ∉ cStr (truncateName ref.name) ∧ 10 ∉ cStr ref.inputType := by
  have hname := notMem_ite_iff (t := ref.name) (u := cStr (truncateName ref.name))
    (fun h => by rw [h]; exact not_mem_nil) (notMem_between_iff " \"" "\"" rfl rfl _)
  have htype : (10 ∉ if ref.inputType ≠ [] then text " type=" ++ cStr ref.inputType else []) ↔
      10 ∉ cStr ref.inputType :=
    notMem_ite_iff (fun h => by rw [h]; exact not_mem_nil)
      (by simp [notMem_text (s := " type=") rfl])
  have hid : 10 ∉ text "[" ++ Decimal.ofInt ref.id ++ text "] @e" ++ Decimal.ofInt ref.id ++
      text " " := by
    simp [notMem_text (s := "[") rfl, notMem_text (s := "] @e") rfl, notMem_text (s := " ") rfl,
      notMem_ofInt]
  have hdisabled : 10 ∉ if ref.disabled = true then text " [disabled]" else [] := notMem_ite_text rfl
  have hfocused : 10 ∉ if ref.focused = true then text " [focused]" else [] := notMem_ite_text rfl
  unfold refLine
  rw [mem_append, mem_append, mem_append, mem_append, mem_append]
  simp only [not_or, hname, hid, htype, hdisabled, hfocused, not_false_eq_true, true_and, and_true,
    and_assoc]

/-! ### Numbers -/

variable {stringToInt : Bytes → Option Int}

lemma mem_refStrings_numStr (refStr : Bytes) : refStr ∈ refStrings (numStr refStr) := by
  have hat : text "@e" = [64, 101] := rfl
  have he : text "e" = [101] := rfl
  unfold numStr refStrings
  rw [hat, he]
  split
  · rename_i h
    match refStr, h with
    | a :: b :: rest, ⟨_, ha, hb⟩ =>
      cases ha
      cases hb
      exact mem_cons_self
  · split
    · rename_i h
      match refStr, h with
      | a :: rest, ⟨_, ha⟩ =>
        cases ha
        exact mem_cons_of_mem _ mem_cons_self
    · exact mem_cons_of_mem _ (mem_cons_of_mem _ mem_cons_self)

lemma numStr_of_mem {d : UInt8} {num : Bytes} (hat : d ≠ 64) (he : d ≠ 101)
    (h : refStr ∈ refStrings (d :: num)) : numStr refStr = d :: num := by
  simp only [refStrings, mem_cons, not_mem_nil, or_false] at h
  rcases h with rfl | rfl | rfl
  · exact if_pos ⟨Nat.succ_lt_succ (Nat.succ_lt_succ (Nat.succ_pos _)), rfl, rfl⟩
  · have hat : ¬ ((text "e" ++ d :: num)[0]? = some 64) := by
      rintro ⟨⟩
    rw [numStr, if_neg fun h => hat h.2.1]
    exact if_pos ⟨Nat.succ_lt_succ (Nat.succ_pos _), rfl⟩
  · rw [numStr, if_neg fun h => hat (some.inj h.2.1),
      if_neg fun h => he (some.inj h.2)]

lemma exists_ofInt_eq_cons {i : Int} (hi : 0 < i) :
    ∃ d num, Decimal.ofInt i = d :: num ∧ d ≠ 64 ∧ d ≠ 101 := by
  cases h : Decimal.ofInt i with
  | nil =>
    rw [Decimal.ofInt, if_neg (Int.not_lt.mpr (Int.le_of_lt hi))] at h
    exact absurd h (ofNat_ne_nil _)
  | cons d num =>
    have hd := mem_ofInt (h ▸ mem_cons_self : d ∈ Decimal.ofInt i)
    refine ⟨d, num, rfl, ?_, ?_⟩
    all_goals
      rintro rfl
      revert hd
      decide

lemma parseRefId_ofInt (hdecimal : ∀ i, FitsInt i → stringToInt (Decimal.ofInt i) = some i) {i : Int}
    (hi : 0 < i) (hfits : FitsInt i) (h : refStr ∈ refStrings (Decimal.ofInt i)) :
    parseRefId stringToInt refStr = i := by
  obtain ⟨d, num, hofInt, hat, he⟩ := exists_ofInt_eq_cons hi
  have hnum : numStr refStr = Decimal.ofInt i := by
    rw [hofInt] at h ⊢
    exact numStr_of_mem hat he h
  have hne : refStr ≠ [] := by
    rintro rfl
    exact absurd (hnum.trans hofInt) nofun
  rw [parseRefId, if_neg hne, hnum, hdecimal i hfits]
  exact if_neg (Int.not_le.mpr hi)

lemma parsesTo_parseRefId (h : 0 < parseRefId stringToInt refStr) :
    ParsesTo stringToInt refStr (parseRefId stringToInt refStr) := by
  refine ⟨numStr refStr, mem_refStrings_numStr refStr, ?_⟩
  unfold parseRefId at h ⊢
  split at h
  · exact absurd h (by decide)
  · rename_i hne
    rw [if_neg hne]
    cases hread : stringToInt (numStr refStr) with
    | none => simp [hread] at h
    | some id =>
      simp only [hread] at h ⊢
      split at h
      · exact absurd h (by decide)
      · rename_i hpos
        rw [if_neg hpos]

namespace CefElementRefIndex

variable {index : CefElementRefIndex}

lemma getRef_succ (i : Nat) (hlt : i < index.refs.length) : index.getRef (i + 1) = index.refs[i]? := by
  have hbounds : ¬ ((i : Int) + 1 < 1 ∨ ((i : Int) + 1).toNat > index.refs.length) := by omega
  have hsub : ((i : Int) + 1 - 1).toNat = i := by omega
  rw [getRef, if_neg hbounds, hsub]

lemma getRef_eq_none {id : Int} (h : ¬ (1 ≤ id ∧ id ≤ index.refs.length)) : index.getRef id = none := by
  have hbounds : id < 1 ∨ id.toNat > index.refs.length := by omega
  exact if_pos hbounds

lemma getRefByString_of_mem
    (hdecimal : ∀ i, FitsInt i → stringToInt (Decimal.ofInt i) = some i) {i : Nat}
    {ref : CefElementRef} (hi : index.refs[i]? = some ref) (hfits : FitsInt (i + 1)) {refStr : Bytes}
    (h : refStr ∈ refStrings (Decimal.ofInt (i + 1))) :
    index.getRefByString stringToInt refStr = some ref := by
  have hpos : (0 : Int) < i + 1 := by omega
  obtain ⟨hlt, -⟩ := List.getElem?_eq_some_iff.mp hi
  rw [getRefByString, parseRefId_ofInt hdecimal hpos hfits h, if_neg (Int.not_le.mpr hpos),
    getRef_succ i hlt, hi]

lemma getRefByString_eq_none {refStr : Bytes}
    (h : ∀ k : Int, 1 ≤ k → k ≤ index.refs.length → ¬ ParsesTo stringToInt refStr k) :
    index.getRefByString stringToInt refStr = none := by
  unfold getRefByString
  by_cases hpos : parseRefId stringToInt refStr ≤ 0
  · exact if_pos hpos
  · have hnames := parsesTo_parseRefId (Int.not_le.mp hpos)
    rw [if_neg hpos]
    exact getRef_eq_none fun hrange => h _ hrange.1 hrange.2 hnames

end CefElementRefIndex

/-! ### Lines and numbers -/

lemma notMem_truncate_iff {s : Bytes} : 10 ∉ truncate s maxLenDefault ↔ 10 ∉ visible s := by
  have hdots : 10 ∉ text "..." := notMem_text rfl
  rw [truncate, visible]
  split
  · exact Iff.rfl
  · rw [if_neg (by decide), mem_append]
    simp [hdots]

lemma notMem_treeBody_iff_unbroken : 10 ∉ treeBody ref ↔ Unbroken ref := by
  rw [notMem_treeBody_iff, notMem_truncate_iff, notMem_truncate_iff]
  simp [Unbroken]

/-! ### References in a line -/

lemma eq_of_append_cons {c : UInt8} {a b r r' : Bytes} (ha : c ∉ a) (hb : c ∉ b)
    (h : a ++ c :: r = b ++ c :: r') : a = b := by
  have htake : ∀ {l r : Bytes}, c ∉ l → (l ++ c :: r).takeWhile (· ≠ c) = l := by
    intro l r hl
    have hne : ∀ x ∈ l, decide (x ≠ c) = true := fun x hx =>
      decide_eq_true fun heq : x = c => hl (heq ▸ hx)
    rw [takeWhile_append_of_pos hne]
    simp
  rw [← htake (r := r) ha, h, htake hb]

lemma ofInt_injective : Function.Injective Decimal.ofInt := fun i j h =>
  some.inj ((Decimal.toInt?_ofInt i).symm.trans (h ▸ Decimal.toInt?_ofInt j))

lemma bracket_notMem_ofInt (i : Int) : 93 ∉ Decimal.ofInt i := by
  intro h
  rcases mem_ofInt h with h | h <;> exact absurd h (by decide)

lemma id_eq_of_isRefLine {other : CefElementRef} {line : Bytes} (h : IsRefLine ref line)
    (hother : IsRefLine other line) : other.id = ref.id := by
  obtain ⟨r, hr⟩ := h
  obtain ⟨r', hr'⟩ := hother
  have hfirst : text "[" = [91] := rfl
  have hbetween : text "] @e" = 93 :: text " @e" := rfl
  have heq := hr'.trans hr.symm
  simp only [hfirst, hbetween, append_assoc, cons_append, nil_append, cons.injEq, true_and] at heq
  exact ofInt_injective (eq_of_append_cons (bracket_notMem_ofInt _) (bracket_notMem_ofInt _) heq)

/-- **The lines of `BuildRefText`** show the texts up to their first null bytes, and no values. -/
lemma hasLines_buildRefText_iff :
    HasLines IsRefLine refs (buildRefText refs) ↔ ∀ ref ∈ refs,
      10 ∉ cStr ref.role ∧ 10 ∉ cStr (truncateName ref.name) ∧ 10 ∉ cStr ref.inputType := by
  rw [buildRefText_eq, hasLines_iff]
  refine (and_iff_left fun ref _ => ⟨isRefLine_refLine ref, fun other _ hother =>
    id_eq_of_isRefLine (isRefLine_refLine ref) hother⟩).trans ?_
  exact forall₂_congr fun ref _ => notMem_refLine_iff

def IsMark (w : Bytes) : Prop := ∃ num, w = mark num ∧ ∀ b ∈ num, b = 45 ∨ Decimal.isDigit b = true

lemma isMark_ownMark (ref : CefElementRef) : IsMark (ownMark ref) :=
  ⟨_, rfl, fun _ => mem_ofInt⟩

variable {index : CefElementRefIndex} {w s t : Bytes}

lemma OtherMark.isMark (h : OtherMark stringToInt index ref w) : IsMark w := by
  obtain ⟨num, -, rfl, hdigits, -⟩ := h
  exact ⟨num, rfl, fun b hb => .inr (all_eq_true.mp hdigits b hb)⟩

/-- The bytes that can stand next to a reference, but not in it. -/
lemma IsMark.notMem (h : IsMark w) {b : UInt8} (hb : b = 32 ∨ b = 34 ∨ b = 46) : b ∉ w.tail := by
  obtain ⟨num, rfl, hnum⟩ := h
  have htail : (mark num).tail = text "[ref=e" ++ num ++ text "]" := rfl
  rw [htail, mem_append, mem_append]
  rintro ((hmem | hmem) | hmem)
  · rcases hb with rfl | rfl | rfl <;> exact absurd hmem (by decide)
  · rcases hb with rfl | rfl | rfl <;> exact absurd (hnum _ hmem) (by decide)
  · rcases hb with rfl | rfl | rfl <;> exact absurd hmem (by decide)

lemma IsMark.apart (h : IsMark w) (ht : ∀ x ∈ t.head?, x = 32 ∨ x = 34 ∨ x = 46) :
    TextMarks.Apart w s t := by
  have hne : w ≠ [] := by
    obtain ⟨num, rfl, -⟩ := h
    exact cons_ne_nil _ _
  exact ⟨hne, .inl fun x hx => h.notMem (ht x hx)⟩

lemma IsMark.apart_quote (h : IsMark w) (s t : Bytes) : TextMarks.Apart w (s ++ [34]) t := by
  obtain ⟨num, rfl, hnum⟩ := h
  have hlast : (mark num).dropLast = text " [ref=e" ++ num :=
    dropLast_concat
  refine ⟨cons_ne_nil _ _, .inr fun x hx => ?_⟩
  rw [getLast?_concat, mem_some_iff] at hx
  subst hx
  rw [hlast, mem_append]
  rintro (hmem | hmem)
  · exact absurd hmem (by decide)
  · exact absurd (hnum _ hmem) (by decide)

lemma first_of_short (ht : t.length < 8) :
    TextMarks.First (ownMark ref) (OtherMark stringToInt index ref) t := by
  refine TextMarks.first_of_length_lt (fun w hw => ?_) ht
  obtain ⟨num, -, rfl, -⟩ := hw
  simp [mark, text]

/-- A cut that no reference lies across. -/
lemma first_append_iff (ht : ∀ x ∈ t.head?, x = 32 ∨ x = 34 ∨ x = 46) :
    TextMarks.First (ownMark ref) (OtherMark stringToInt index ref) (s ++ t) ↔
      TextMarks.First (ownMark ref) (OtherMark stringToInt index ref) s ∧
        (ownMark ref <:+: s ∨ TextMarks.First (ownMark ref) (OtherMark stringToInt index ref) t) :=
  TextMarks.first_append_iff ((isMark_ownMark ref).apart ht) fun _ hw => hw.isMark.apart ht

lemma not_infix_of_short (hs : s.length < 8) : ¬ ownMark ref <:+: s := fun h => by
  have hlength := h.length_le
  simp only [ownMark, mark, text, length_append, length_map] at hlength
  have height : " [ref=e".toList.length = 7 ∧ "]".toList.length = 1 := ⟨rfl, rfl⟩
  omega

/-- Behind its own reference an element has no first reference to another one. -/
lemma first_ownMark_append (hown : ∀ other, index.getRefByString stringToInt
      (text "e" ++ Decimal.ofInt ref.id) = some other → other.id = ref.id) (rest : Bytes) :
    TextMarks.First (ownMark ref) (OtherMark stringToInt index ref) (ownMark ref ++ rest) := by
  intro w before after hw h
  rw [append_assoc] at h
  rcases append_eq_append_iff.mp h with ⟨x, rfl, -⟩ | ⟨x, hmark, hx⟩
  · exact (prefix_append (ownMark ref) x).isInfix
  · obtain ⟨num, other, rfl, hdigits, hfind, hne⟩ := hw
    cases x with
    | nil => exact ⟨[], [], by simp [hmark]⟩
    | cons c x =>
      cases before with
      | nil =>
        -- two references at one place are the same
        rw [nil_append] at hmark
        rw [← hmark, ownMark, mark, mark, append_assoc, append_assoc, append_assoc,
          append_assoc, append_cancel_left_eq] at hx
        have hdigit : 93 ∉ num := fun hmem => absurd (all_eq_true.mp hdigits _ hmem) (by decide)
        obtain rfl := eq_of_append_cons hdigit (bracket_notMem_ofInt _) hx
        exact absurd (hown other hfind) hne
      | cons d before =>
        obtain rfl : c = 32 := (cons.inj hx).1.symm
        refine absurd ?_ ((isMark_ownMark ref).notMem (.inl rfl))
        rw [hmark]
        simp

lemma first_truncate_iff {name : Bytes} :
    TextMarks.First (ownMark ref) (OtherMark stringToInt index ref) (truncate name maxLenDefault) ↔
      TextMarks.First (ownMark ref) (OtherMark stringToInt index ref) (visible name) := by
  rw [truncate, visible]
  split
  · rfl
  · rw [if_neg (by decide), first_append_iff (by simp [text])]
    exact and_iff_left (.inr (first_of_short (by decide)))

/-- What follows the role has its first reference in the name. -/
lemma first_name_iff (hown : ∀ other, index.getRefByString stringToInt
      (text "e" ++ Decimal.ofInt ref.id) = some other → other.id = ref.id) (rest : Bytes) :
    TextMarks.First (ownMark ref) (OtherMark stringToInt index ref)
        ((if ref.name ≠ [] then text " \"" ++ truncate ref.name maxLenDefault ++ text "\"" else []) ++
          (ownMark ref ++ rest)) ↔
      TextMarks.First (ownMark ref) (OtherMark stringToInt index ref) (visible ref.name) := by
  have hrest : TextMarks.First (ownMark ref) (OtherMark stringToInt index ref) (ownMark ref ++ rest) :=
    first_ownMark_append hown rest
  by_cases hname : ref.name = []
  · rw [if_neg (not_not.mpr hname), hname]
    exact iff_of_true hrest (first_of_short (by decide))
  · have hsplit : text " \"" = text " " ++ [34] := rfl
    have hquoted : TextMarks.First (ownMark ref) (OtherMark stringToInt index ref)
        (text "\"" ++ (ownMark ref ++ rest)) :=
      (first_append_iff (by simp [ownMark, mark, text])).mpr ⟨first_of_short (by decide), .inr hrest⟩
    rw [if_pos hname, append_assoc, append_assoc, hsplit,
      TextMarks.first_append_iff ((isMark_ownMark ref).apart_quote _ _)
        fun _ hw => hw.isMark.apart_quote _ _,
      and_iff_right (first_of_short (by decide)), or_iff_right (not_infix_of_short (by decide)),
      first_append_iff (by simp [text]), first_truncate_iff]
    exact and_iff_left (.inr hquoted)

lemma first_treeBody_iff (hown : ∀ other, index.getRefByString stringToInt
      (text "e" ++ Decimal.ofInt ref.id) = some other → other.id = ref.id) :
    TextMarks.First (ownMark ref) (OtherMark stringToInt index ref) (treeBody ref) ↔
      Unmarked stringToInt index ref := by
  obtain ⟨rest, hbody⟩ : ∃ rest, treeBody ref = text "-" ++ (text " " ++ ref.role ++
      ((if ref.name ≠ [] then text " \"" ++ truncate ref.name maxLenDefault ++ text "\"" else []) ++
        (ownMark ref ++ rest))) := by
    have hdash : text "- " = text "-" ++ text " " := rfl
    have happend : ∀ a b c d e f g : Bytes, a ++ b ++ c ++ d ++ e ++ f ++ g =
        a ++ b ++ (c ++ (d ++ (e ++ f ++ g))) := by simp
    rw [treeBody, append_assoc _ _ (if ref.focused then text " [focused]" else []), happend, hdash,
      append_assoc, append_assoc]
    exact ⟨_, rfl⟩
  rw [hbody, first_append_iff (by simp [text]), and_iff_right (first_of_short (by decide)),
    or_iff_right (not_infix_of_short (by decide)), first_append_iff, first_name_iff hown, Unmarked]
  split <;> simp [ownMark, mark, text]

lemma notMem_cStr {s : Bytes} (h : 10 ∉ s) : 10 ∉ cStr s := fun hmem =>
  h ((takeWhile_sublist _).subset hmem)

section Index

variable (hdecimal : ∀ i, FitsInt i → stringToInt (Decimal.ofInt i) = some i)
  (hids : ∀ (i : Nat) ref, index.refs[i]? = some ref → ref.id = i + 1 ∧ FitsInt ref.id)

include hdecimal hids

lemma getRefByString_own (href : ref ∈ index.refs) :
    index.getRefByString stringToInt (text "e" ++ Decimal.ofInt ref.id) = some ref := by
  obtain ⟨i, hi⟩ := mem_iff_getElem?.mp href
  obtain ⟨hid, hfits⟩ := hids i ref hi
  rw [hid] at hfits ⊢
  exact CefElementRefIndex.getRefByString_of_mem hdecimal hi hfits
    (mem_cons_of_mem _ mem_cons_self)

lemma otherMark_ownMark {other : CefElementRef} (hother : other ∈ index.refs)
    (hne : other.id ≠ ref.id) : OtherMark stringToInt index ref (ownMark other) := by
  refine ⟨_, other, rfl, ?_, getRefByString_own hdecimal hids hother, hne⟩
  obtain ⟨i, hi⟩ := mem_iff_getElem?.mp hother
  have hpos : ¬ other.id < 0 := by
    have hid := (hids i other hi).1
    omega
  rw [Decimal.ofInt, if_neg hpos]
  exact all_eq_true.mpr fun _ => isDigit_of_mem_ofNat

/-- **The lines of the tree** have no other line break, and no other reference first. -/
lemma hasLines_formatAsTree_iff :
    HasLines (IsTreeLine stringToInt index) index.refs (formatAsTree index.refs) ↔
      ∀ ref ∈ index.refs, Unbroken ref ∧ Unmarked stringToInt index ref := by
  rw [formatAsTree_eq, hasLines_iff, ← forall₂_and]
  refine forall₂_congr fun ref href => and_congr notMem_treeBody_iff_unbroken ?_
  have hown : ∀ other, index.getRefByString stringToInt (text "e" ++ Decimal.ofInt ref.id) =
      some other → other.id = ref.id := fun other hother => by
    rw [getRefByString_own hdecimal hids href] at hother
    rw [some.inj hother]
  rw [← first_treeBody_iff hown]
  constructor
  · exact fun h => h.1.2
  · refine fun h => ⟨⟨ownMark_infix_treeBody ref, h⟩, fun other hother hline => ?_⟩
    by_contra hne
    have hmark := otherMark_ownMark hdecimal hids hother hne
    have hmark' := otherMark_ownMark hdecimal hids href (Ne.symm hne)
    exact TextMarks.not_first_of_first (cons_ne_nil _ _) hmark' hmark h hline.2
      (ownMark_infix_treeBody ref)

end Index

/-- **Element references** are not forged if and only if no text of an element breaks a line, as far
as it is seen, and no reference to another element comes first in its role and name.

**Proof sketch.** There are as many lines as line breaks, which are those that are written behind
the lines, and those in the texts. A reference is written without quotes, so that it lies in one of
the texts or is the own one. -/
theorem unforged_iff {stringToInt : Bytes → Option Int} {index : CefElementRefIndex}
    (hdecimal : ∀ i, FitsInt i → stringToInt (Decimal.ofInt i) = some i)
    (hids : ∀ (i : Nat) ref, index.refs[i]? = some ref → ref.id = i + 1 ∧ FitsInt ref.id) :
    Unforged stringToInt index ↔
      ∀ ref ∈ index.refs, Unbroken ref ∧ Unmarked stringToInt index ref := by
  constructor
  · intro h
    exact (hasLines_formatAsTree_iff hdecimal hids).mp h.tree
  · intro h
    refine ⟨hasLines_buildRefText_iff.mpr fun ref href => ?_,
      (hasLines_formatAsTree_iff hdecimal hids).mpr h, fun i ref hi refStr hmem => ?_,
      fun refStr => CefElementRefIndex.getRefByString_eq_none⟩
    · obtain ⟨hrole, hname, -, htype⟩ :=
        notMem_treeBody_iff.mp (notMem_treeBody_iff_unbroken.mpr (h ref href).1)
      exact ⟨notMem_cStr hrole, notMem_cStr hname, notMem_cStr htype⟩
    · obtain ⟨hid, hfits⟩ := hids i ref hi
      rw [hid] at hfits
      exact CefElementRefIndex.getRefByString_of_mem hdecimal hi hfits hmem

def buttonNamed (id : Int) (name : Bytes) : CefElementRef := { id, role := text "button", name }

def twoButtons : CefElementRefIndex :=
  { refs := [buttonNamed 1 (text "Buy"), buttonNamed 2 (text "Sell")] }

theorem unforged_iff_twoButtons :
    Unforged Decimal.toInt? twoButtons ↔
      ∀ ref ∈ twoButtons.refs, Unbroken ref ∧ Unmarked Decimal.toInt? twoButtons ref :=
  unforged_iff (fun i _ => Decimal.toInt?_ofInt i) fun
    | 0, _, h => some.inj h ▸ ⟨rfl, by decide⟩
    | 1, _, h => some.inj h ▸ ⟨rfl, by decide⟩

/-- Two buttons, and the role of the first one is the line of the other one in the tree. -/
def roleWithLine : CefElementRefIndex :=
  { refs := [{ buttonNamed 1 (text "Buy") with role := text "button \"Sell\" [ref=e2]" },
      buttonNamed 2 (text "Sell")] }

/-- **A name with the line of another element in it**: the text of one button is that of two. And a role
with a reference in it: the line of the tree begins with that of the other element. -/
theorem name_with_line_break :
    let name := text "Buy\"\n[2] @e2 button \"Sell"
    buildRefText [buttonNamed 1 name] = buildRefText twoButtons.refs ∧
      ¬ Unforged Decimal.toInt? { refs := [buttonNamed 1 name] } ∧
      text "- button \"Sell\" [ref=e2]" <+: formatAsTree roleWithLine.refs ∧
      ¬ Unforged Decimal.toInt? roleWithLine := by
  intro name
  refine ⟨by decide, fun h => ?_, by decide, fun h => ?_⟩
  · have hbutton := hasLines_buildRefText_iff.mp h.refText (buttonNamed 1 name) mem_cons_self
    exact hbutton.2.1 (by decide)
  · have hbutton := ((hasLines_formatAsTree_iff (fun i _ => Decimal.toInt?_ofInt i) fun
      | 0, _, h => some.inj h ▸ ⟨rfl, by decide⟩
      | 1, _, h => some.inj h ▸ ⟨rfl, by decide⟩).mp h.tree _ mem_cons_self).2.1
    have hinfix := hbutton (mark (text "2")) (text " button \"Sell\"") []
      ⟨text "2", buttonNamed 2 (text "Sell"), rfl, rfl, by decide, by decide⟩ (by decide)
    exact absurd hinfix (by decide)

end CefCore.Browser.SnapshotFormatter
