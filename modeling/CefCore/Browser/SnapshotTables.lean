import CefCore.Browser.SnapshotFormatter
import CefCore.Foundations.AsciiText

/-!
# The tables of a snapshot

What a reader finds in the tables that `CefSnapshotFormatter` writes. In a table of tab-separated values
it finds one line for each element, with six fields, whatever the texts of the page are. In a table in
Markdown a text may break a line, and it may have a pipe behind a backslash: the escaper writes another
backslash between the two, which makes a backslash of both, and the pipe counts.

## Main results

* `formatAsTsv_lines`, `formatAsMarkdown_table_iff`: the lines of both tables.
-/

namespace CefCore.Browser.SnapshotFormatter

open List EscapedText

/-! ### Bytes that the formatter writes -/

def isPlain (b : UInt8) : Bool := b ≠ 9 && b ≠ 10 && b ≠ 13 && b ≠ 92 && b ≠ 124

variable {b : UInt8} {ref : CefElementRef} {refs : List CefElementRef} {t : Bytes}

lemma isPlain_of_isDigit (h : Decimal.isDigit b = true) : isPlain b = true := by
  have hne : ∀ c, Decimal.isDigit c = false → b ≠ c := by
    rintro c hc rfl
    exact absurd (h.symm.trans hc) (by decide)
  simp [isPlain, hne 9 rfl, hne 10 rfl, hne 13 rfl, hne 92 rfl, hne 124 rfl]

lemma isPlain_of_mem_ofInt {i : Int} (h : b ∈ Decimal.ofInt i) : isPlain b = true := by
  rcases Decimal.mem_ofInt h with rfl | hdigit
  · rfl
  · exact isPlain_of_isDigit hdigit

lemma isPlain_of_mem_text {s : String} (hs : (text s).all isPlain = true)
    (h : b ∈ text s) : isPlain b = true := all_eq_true.mp hs b h

lemma isPlain_of_mem_formatBounds {bounds : Rect} (h : b ∈ formatBounds bounds) :
    isPlain b = true := by
  have hcomma : (text ",").all isPlain = true := rfl
  simp only [formatBounds, mem_append] at h
  rcases h with (((((h | h) | h) | h) | h) | h) | h
  all_goals first | exact isPlain_of_mem_ofInt h | exact isPlain_of_mem_text hcomma h

lemma isPlain_of_mem_formatState (h : b ∈ formatState ref) : isPlain b = true := by
  have hall : ∀ focused disabled,
      (formatState { ref with focused := focused, disabled := disabled }).all isPlain = true := by
    intro focused disabled
    cases focused <;> cases disabled <;> rfl
  exact all_eq_true.mp (hall ref.focused ref.disabled) b h

lemma isPlain_of_mem_id {i : Int} (h : b ∈ text "@e" ++ Decimal.ofInt i) : isPlain b = true := by
  have hfirst : (text "@e").all isPlain = true := rfl
  rcases mem_append.mp h with h | h
  · exact isPlain_of_mem_text hfirst h
  · exact isPlain_of_mem_ofInt h

/-! ### Tab-separated values -/

lemma mem_escapeTsv {str : Bytes} (h : b ∈ escapeTsv str) : b ≠ 9 ∧ b ≠ 10 := by
  obtain ⟨c, -, hb⟩ := mem_flatMap.mp h
  split at hb
  · obtain rfl := mem_singleton.mp hb
    decide
  · split at hb
    · obtain rfl := mem_singleton.mp hb
      decide
    · split at hb
      · exact nomatch hb
      · rename_i htab hline _
        obtain rfl := mem_singleton.mp hb
        exact ⟨htab, hline⟩

lemma mem_tsvFields {field : Bytes} (hfield : field ∈ tsvFields ref)
    (h : b ∈ field) : b ≠ 9 ∧ b ≠ 10 := by
  have hplain : isPlain b = true → b ≠ 9 ∧ b ≠ 10 := by
    intro hb
    constructor
    all_goals
      rintro rfl
      exact absurd hb (by decide)
  simp only [tsvFields, mem_cons, not_mem_nil, or_false] at hfield
  rcases hfield with rfl | rfl | rfl | rfl | rfl | rfl
  · exact hplain (isPlain_of_mem_id h)
  · exact mem_escapeTsv h
  · exact mem_escapeTsv h
  · exact mem_escapeTsv h
  · exact hplain (isPlain_of_mem_formatBounds h)
  · exact hplain (isPlain_of_mem_formatState h)

/-- Numbers between commas are read. -/
def parseBounds (field : Bytes) : Option (List Int) := (field.splitOn 44).mapM Decimal.toInt?

lemma parseBounds_formatBounds (bounds : Rect) : parseBounds (formatBounds bounds) =
    some [bounds.x, bounds.y, bounds.width, bounds.height] := by
  have hcomma : text "," = [44] := rfl
  have hnot : ∀ i, 44 ∉ Decimal.ofInt i := fun i h => by
    rcases Decimal.mem_ofInt h with heq | hdigit
    · exact absurd heq (by decide)
    · exact absurd hdigit (by decide)
  have hjoin : formatBounds bounds = [44].intercalate
      [Decimal.ofInt bounds.x, Decimal.ofInt bounds.y, Decimal.ofInt bounds.width,
        Decimal.ofInt bounds.height] := by
    simp [formatBounds, hcomma, List.intercalate]
  have hsplit : (formatBounds bounds).splitOn 44 =
      [Decimal.ofInt bounds.x, Decimal.ofInt bounds.y, Decimal.ofInt bounds.width,
        Decimal.ofInt bounds.height] := by
    rw [hjoin, splitOn_intercalate]
    · simp [hnot]
    · exact cons_ne_nil _ _
  simp [parseBounds, hsplit, Decimal.toInt?_ofInt]

/-- The line of an element: six fields, the first one with its number and the fifth with its bounds. -/
structure IsTsvLine (ref : CefElementRef) (line : Bytes) : Prop where
  length_eq : (line.splitOn 9).length = 6
  first_eq : (line.splitOn 9)[0]? = some (text "@e" ++ Decimal.ofInt ref.id)
  fifth_eq : ((line.splitOn 9)[4]?).bind parseBounds =
    some [ref.bounds.x, ref.bounds.y, ref.bounds.width, ref.bounds.height]

lemma splitOn_tsvFields (ref : CefElementRef) :
    ((text "\t").intercalate (tsvFields ref)).splitOn 9 = tsvFields ref := by
  have htab : text "\t" = [9] := rfl
  rw [htab, splitOn_intercalate]
  · exact fun field hfield hmem => (mem_tsvFields hfield hmem).1 rfl
  · exact cons_ne_nil _ _

lemma shown_eq (refs : List CefElementRef) :
    (refs.filter fun ref => ref.bounds.isEmpty = false) = shown refs :=
  filter_congr fun ref _ => by cases ref.bounds.isEmpty <;> rfl

/-- **The lines of a table of tab-separated values**: the header, and one line for each element that is
shown, in their order, whatever the texts of the elements are. -/
theorem formatAsTsv_lines (refs : List CefElementRef) : ∃ lines : List Bytes,
    (formatAsTsv refs).splitOn 10 =
      text "ref\trole\tname\tvalue\tbounds\tstate" :: lines ++ [[]] ∧
    List.Forall₂ IsTsvLine (refs.filter fun ref => ref.bounds.isEmpty = false) lines := by
  refine ⟨(shown refs).map fun ref => (text "\t").intercalate (tsvFields ref), ?_, ?_⟩
  · rw [formatAsTsv_eq]
    refine splitOnP_flatMap_append (p := (· == 10)) rfl fun line hline b hb => ?_
    rw [beq_eq_false_iff_ne]
    rcases mem_cons.mp hline with rfl | hline
    · rintro rfl
      exact absurd hb (by decide)
    · obtain ⟨ref, -, rfl⟩ := mem_map.mp hline
      rcases mem_of_mem_intercalate hb with htab | ⟨field, hfield, hmem⟩
      · rintro rfl
        exact absurd htab (by decide)
      · exact (mem_tsvFields hfield hmem).2
  · rw [shown_eq, forall₂_map_right_iff, forall₂_same]
    intro ref _
    exact {
      length_eq := by
        rw [splitOn_tsvFields]
        rfl
      first_eq := by
        rw [splitOn_tsvFields]
        rfl
      fifth_eq := by
        rw [splitOn_tsvFields]
        exact parseBounds_formatBounds ref.bounds }

/-! ### Markdown -/

/-- A byte that ends a line. A carriage return does so for some readers. -/
def isLineBreak (cr : Bool) (b : UInt8) : Bool := b = 10 || (cr && b = 13)

/-- The line of an element: pipes that are not escaped stand around six cells, the first one with the
number of the element. -/
def IsMarkdownLine (ref : CefElementRef) (line : Bytes) : Prop :=
  ∃ cells, EscapedText.split 92 124 line = [] :: cells ++ [[]] ∧ cells.length = 6 ∧
    cells.head? = some (text " @e" ++ Decimal.ofInt ref.id ++ text " ")

/-- The output is the table of the elements: behind the two lines of the header there is one line for
each element that is shown, in their order. -/
def IsMarkdownTable (cr : Bool) (refs : List CefElementRef) (out : Bytes) : Prop :=
  ∃ lines, out.splitOnP (isLineBreak cr) = markdownHeader ++ lines ++ [[]] ∧
    List.Forall₂ IsMarkdownLine (refs.filter fun ref => ref.bounds.isEmpty = false) lines

/-- A text that breaks no line, and has no pipe behind an odd number of backslashes. -/
structure Harmless (cr : Bool) (t : Bytes) : Prop where
  unbroken : ∀ b ∈ t, isLineBreak cr b = false
  unexposed : ¬ EscapedText.Exposed 92 124 t

def visible (str : Bytes) : Bytes :=
  if str.length ≤ maxLenDefault then str else str.take (maxLenDefault - 3)

variable {cr : Bool}

lemma isLineBreak_of_isPlain (h : isPlain b = true) : isLineBreak cr b = false := by
  simp only [isPlain, Bool.and_eq_true, decide_eq_true_eq] at h
  simp [isLineBreak, h]

lemma ne_of_isPlain (h : isPlain b = true) : b ≠ 124 := by
  rintro rfl
  exact absurd h (by decide)

lemma harmless_of_isPlain (h : ∀ b ∈ t, isPlain b = true) : Harmless cr t where
  unbroken := fun b hb => isLineBreak_of_isPlain (h b hb)
  unexposed := by
    rintro ⟨a, b, rfl, -⟩
    exact ne_of_isPlain (h 124 (mem_append_right a mem_cons_self)) rfl

lemma harmless_truncate_iff {str : Bytes} :
    Harmless cr (truncate str maxLenDefault) ↔ Harmless cr (visible str) := by
  rw [truncate, visible]
  split
  · rfl
  · have hdots : ∀ b ∈ text "...", isPlain b = true := all_eq_true.mp rfl
    have hunbroken : (∀ b ∈ str.take (maxLenDefault - 3) ++ text "...", isLineBreak cr b = false) ↔
        ∀ b ∈ str.take (maxLenDefault - 3), isLineBreak cr b = false := by
      rw [forall_mem_append]
      exact and_iff_left fun b hb => isLineBreak_of_isPlain (hdots b hb)
    have hexposed : EscapedText.Exposed 92 124 (str.take (maxLenDefault - 3) ++ text "...") ↔
        EscapedText.Exposed 92 124 (str.take (maxLenDefault - 3)) :=
      exposed_append_iff (by decide) fun hb => ne_of_isPlain (hdots 124 hb) rfl
    rw [if_neg (by decide)]
    constructor
    · exact fun h => ⟨hunbroken.mp h.unbroken, fun hx => h.unexposed (hexposed.mpr hx)⟩
    · exact fun h => ⟨hunbroken.mpr h.unbroken, fun hx => h.unexposed (hexposed.mp hx)⟩

lemma unbroken_escapeMarkdown_iff :
    (∀ b ∈ escapeMarkdown t, isLineBreak cr b = false) ↔ ∀ b ∈ t, isLineBreak cr b = false := by
  have hesc : isLineBreak cr 92 = false := by cases cr <;> rfl
  refine forall_congr' fun b => ?_
  by_cases hb : b = 92
  · subst hb
    exact iff_of_true (fun _ => hesc) fun _ => hesc
  · rw [escapeMarkdown_eq, mem_escape_iff hb]

lemma harmless_iff : Harmless cr t ↔ (∀ b ∈ escapeMarkdown t, isLineBreak cr b = false) ∧
      EscapedText.separators 92 124 false (escapeMarkdown t) = 0 := by
  rw [unbroken_escapeMarkdown_iff, escapeMarkdown_eq,
    separators_escape_eq_zero_iff (by decide)]
  exact ⟨fun h => ⟨h.unbroken, h.unexposed⟩, fun h => ⟨h.1, h.2⟩⟩

lemma forall_markdownCells_iff :
    (∀ cell ∈ markdownCells ref, (∀ b ∈ cell, isLineBreak cr b = false) ∧
      EscapedText.separators 92 124 false cell = 0) ↔
    ∀ t ∈ [ref.role, visible ref.name, visible ref.value], Harmless cr t := by
  have hplain : ∀ cell, (∀ b ∈ cell, isPlain b = true) →
      (∀ b ∈ cell, isLineBreak cr b = false) ∧
        EscapedText.separators 92 124 false cell = 0 := fun cell h =>
    ⟨fun b hb => isLineBreak_of_isPlain (h b hb),
      separators_of_not_mem fun hb => ne_of_isPlain (h 124 hb) rfl⟩
  have hid := hplain (text "@e" ++ Decimal.ofInt ref.id) fun _ => isPlain_of_mem_id
  have hbounds := hplain (formatBounds ref.bounds) fun _ => isPlain_of_mem_formatBounds
  have hstate : Harmless cr (formatState ref) :=
    harmless_of_isPlain fun _ => isPlain_of_mem_formatState
  simp only [markdownCells, pageTexts, map_cons, map_nil, cons_append, nil_append, forall_mem_cons,
    not_mem_nil, false_implies, implies_true, and_true, ← harmless_iff, harmless_truncate_iff]
  constructor
  · exact fun h => ⟨h.2.1, h.2.2.1, h.2.2.2.1⟩
  · exact fun h => ⟨hid, h.1, h.2.1, h.2.2, hbounds, hstate⟩

def markdownRow (ref : CefElementRef) : Bytes := EscapedText.row 124 32 (markdownCells ref)

lemma unbroken_markdownRow_iff :
    (∀ b ∈ markdownRow ref, isLineBreak cr b = false) ↔
      ∀ cell ∈ markdownCells ref, ∀ b ∈ cell, isLineBreak cr b = false := by
  have hpipe : isLineBreak cr 124 = false := by cases cr <;> rfl
  have hblank : isLineBreak cr 32 = false := by cases cr <;> rfl
  simp only [markdownRow, EscapedText.row, forall_mem_cons, mem_flatMap, hpipe,
    forall_exists_index, and_imp, true_and]
  constructor
  · exact fun h cell hcell b hb => h b cell hcell (by simp [hb])
  · rintro h b cell hcell hb
    simp only [cons_append, mem_cons, mem_append, not_mem_nil, or_false] at hb
    rcases hb with rfl | hb | rfl | rfl
    · exact hblank
    · exact h cell hcell b hb
    · exact hblank
    · exact hpipe

lemma length_markdownCells (ref : CefElementRef) : (markdownCells ref).length = 6 := by
  simp [markdownCells, pageTexts]

lemma isMarkdownLine_markdownRow
    (h : ∀ cell ∈ markdownCells ref, EscapedText.separators 92 124 false cell = 0) :
    IsMarkdownLine ref (markdownRow ref) := by
  refine ⟨(markdownCells ref).map fun cell => 32 :: cell ++ [32], ?_, ?_, ?_⟩
  · exact split_row (by decide) (by decide) (by decide) h
  · rw [length_map, length_markdownCells]
  · have hfirst : text " @e" = 32 :: text "@e" := rfl
    have hlast : text " " = [32] := rfl
    simp [markdownCells, hfirst, hlast]

lemma separators_of_isMarkdownLine (h : IsMarkdownLine ref (markdownRow ref)) :
    ∀ cell ∈ markdownCells ref, EscapedText.separators 92 124 false cell = 0 := by
  obtain ⟨cells, hsplit, hlength, -⟩ := h
  have hcount := congrArg List.length hsplit
  rw [EscapedText.split, length_splitFrom, markdownRow,
    separators_row (by decide) (by decide) (by decide), length_append,
    length_cons, hlength] at hcount
  have hsum : ((markdownCells ref).map (EscapedText.separators 92 124 false)).sum = 0 := by
    rw [length_markdownCells] at hcount
    simpa using hcount
  intro cell hcell
  exact List.sum_eq_zero_iff_forall_eq_nat.mp hsum _ (List.mem_map_of_mem hcell)

lemma countP_endLines (lines : List Bytes) : (endLines lines).countP (isLineBreak cr) =
    lines.length + (lines.map fun line => line.countP (isLineBreak cr)).sum := by
  have hline : List.countP (isLineBreak cr) [10] = 1 := by cases cr <;> rfl
  induction lines with
  | nil => rfl
  | cons line lines ih =>
    rw [endLines, flatMap_cons, ← endLines, countP_append, countP_append, hline, ih,
      map_cons, sum_cons, length_cons]
    omega

lemma unbroken_markdownHeader : ∀ line ∈ markdownHeader, ∀ b ∈ line, isLineBreak cr b = false := by
  have hall : ∀ cr, markdownHeader.all (fun line => line.all fun b => !isLineBreak cr b) = true := by
    decide
  simpa using hall cr

lemma splitOnP_formatAsMarkdown
    (h : ∀ ref ∈ shown refs, ∀ b ∈ markdownRow ref, isLineBreak cr b = false) :
    (formatAsMarkdown refs).splitOnP (isLineBreak cr) =
      markdownHeader ++ (shown refs).map markdownRow ++ [[]] := by
  rw [formatAsMarkdown_eq]
  refine splitOnP_flatMap_append (by cases cr <;> rfl) fun line hline => ?_
  rcases mem_append.mp hline with hline | hline
  · exact unbroken_markdownHeader line hline
  · obtain ⟨ref, href, rfl⟩ := mem_map.mp hline
    exact h ref href

lemma unbroken_of_isMarkdownTable (h : IsMarkdownTable cr refs (formatAsMarkdown refs)) :
    ∀ ref ∈ shown refs, ∀ b ∈ markdownRow ref, isLineBreak cr b = false := by
  obtain ⟨lines, hsplit, hlines⟩ := h
  have hcount := congrArg List.length hsplit
  rw [shown_eq] at hlines
  rw [length_splitOnP_eq, formatAsMarkdown_eq, countP_endLines, length_append,
    length_append, length_append, length_map, hlines.length_eq,
    length_singleton, Nat.add_right_comm, Nat.add_eq_left] at hcount
  intro ref href b hb
  have hline : (markdownRow ref).countP (isLineBreak cr) = 0 :=
    List.sum_eq_zero_iff_forall_eq_nat.mp hcount _ (List.mem_map_of_mem
      (mem_append_right markdownHeader (mem_map_of_mem href)))
  simpa using countP_eq_zero.mp hline b hb

lemma isMarkdownTable_iff_forall_cells :
    IsMarkdownTable cr refs (formatAsMarkdown refs) ↔ ∀ ref ∈ shown refs,
      ∀ cell ∈ markdownCells ref, (∀ b ∈ cell, isLineBreak cr b = false) ∧
        EscapedText.separators 92 124 false cell = 0 := by
  constructor
  · intro h ref href cell hcell
    have hunbroken := unbroken_of_isMarkdownTable h
    obtain ⟨lines, hsplit, hlines⟩ := h
    rw [splitOnP_formatAsMarkdown hunbroken] at hsplit
    obtain rfl := append_cancel_left (append_cancel_right hsplit)
    rw [shown_eq, forall₂_map_right_iff, forall₂_same] at hlines
    exact ⟨unbroken_markdownRow_iff.mp (hunbroken ref href) cell hcell,
      separators_of_isMarkdownLine (hlines ref href) cell hcell⟩
  · intro h
    refine ⟨(shown refs).map markdownRow, ?_, ?_⟩
    · exact splitOnP_formatAsMarkdown fun ref href =>
        unbroken_markdownRow_iff.mpr fun cell hcell => (h ref href cell hcell).1
    · rw [shown_eq, forall₂_map_right_iff, forall₂_same]
      exact fun ref href => isMarkdownLine_markdownRow fun cell hcell => (h ref href cell hcell).2

/-- **When the output in Markdown is the table of the elements**: exactly if the role, the name and
the value of each element that is shown break no line and have no pipe behind an odd number of
backslashes, as far as they are seen.

**Proof sketch.** A line break makes one line more than there are elements, and a pipe that counts
makes one cell more than six. -/
theorem formatAsMarkdown_table_iff (cr : Bool) (refs : List CefElementRef) :
    IsMarkdownTable cr refs (formatAsMarkdown refs) ↔
      ∀ ref ∈ refs, ref.bounds.isEmpty = false →
        ∀ t ∈ [ref.role, visible ref.name, visible ref.value], Harmless cr t := by
  rw [isMarkdownTable_iff_forall_cells]
  have hmem : ∀ ref, ref ∈ shown refs ↔ ref ∈ refs ∧ ref.bounds.isEmpty = false := fun ref => by
    simp [shown]
  constructor
  · intro h ref href hempty
    exact forall_markdownCells_iff.mp (h ref ((hmem ref).mpr ⟨href, hempty⟩))
  · intro h ref hshown
    obtain ⟨href, hempty⟩ := (hmem ref).mp hshown
    exact forall_markdownCells_iff.mpr (h ref href hempty)

def linkNamed (name : Bytes) : CefElementRef :=
  { id := 1, role := text "link", name := name, bounds := { width := 80, height := 20 } }

/-- A line break in a name makes two lines of one element, and a backslash in front of a pipe makes
seven cells of six. -/
theorem not_formatAsMarkdown_table :
    ¬ IsMarkdownTable false [linkNamed (text "a\nb")] (formatAsMarkdown [linkNamed (text "a\nb")]) ∧
    ¬ IsMarkdownTable false [linkNamed (text "a\\|b")]
      (formatAsMarkdown [linkNamed (text "a\\|b")]) := by
  constructor
  · intro h
    have hcells := isMarkdownTable_iff_forall_cells.mp h _ mem_cons_self
    have hbreak := (hcells (text "a\nb") (by decide)).1 10 (by decide)
    exact absurd hbreak (by decide)
  · intro h
    have hcells := isMarkdownTable_iff_forall_cells.mp h _ mem_cons_self
    exact absurd (hcells (text "a\\\\|b") (by decide)).2 (by decide)

end CefCore.Browser.SnapshotFormatter
