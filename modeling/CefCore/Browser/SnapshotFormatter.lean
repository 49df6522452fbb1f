import CefCore.Foundations.Decimal
import CefCore.Foundations.EscapedText

/-!
# The snapshot formatter

`CefSnapshotFormatter` of `libcef/browser/snapshot_formatter.cc` writes the elements of a page as a
table: as tab-separated values, or in Markdown, or as a tree. The texts of an element come from the
page.

## Main results

* `formatAsTsv_eq`, `formatAsMarkdown_eq`: the tables are rows of escaped texts.

## Implementation notes

A string is the list of its bytes. Of an element there are the members that the formatter reads.
-/

namespace CefCore.Browser.SnapshotFormatter

open List

/-- The bytes of a `std::string`. -/
abbrev Bytes := List UInt8

/-- The bytes of a string literal, which is ASCII. -/
def text (s : String) : Bytes := s.toList.map fun c => UInt8.ofNat c.toNat

structure Rect where
  x : Int := 0
  y : Int := 0
  width : Int := 0
  height : Int := 0
  deriving DecidableEq

def Rect.isEmpty (r : Rect) : Bool := r.width = 0 || r.height = 0

structure CefElementRef where
  id : Int := 0
  role : Bytes := []
  name : Bytes := []
  bounds : Rect := {}
  inputType : Bytes := []
  value : Bytes := []
  focused : Bool := false
  disabled : Bool := false
  deriving DecidableEq

/-! ### Texts -/

def escapeTsv (str : Bytes) : Bytes :=
  str.flatMap fun c =>
    if c = 9 then [32]
    else if c = 10 then [32]
    else if c = 13 then [] -- Strip carriage returns entirely.
    else [c]

def escapeMarkdown (str : Bytes) : Bytes :=
  str.flatMap fun c => if c = 124 then text "\\|" else [c]

/-- The default of the argument `max_len`. -/
def maxLenDefault : Nat := 50

def truncate (str : Bytes) (maxLen : Nat) : Bytes :=
  if str.length ≤ maxLen then str
  -- Ensure max_len is large enough for the ellipsis.
  else if maxLen ≤ 3 then str.take maxLen
  else str.take (maxLen - 3) ++ text "..."

def formatBounds (bounds : Rect) : Bytes :=
  Decimal.ofInt bounds.x ++ text "," ++ Decimal.ofInt bounds.y ++ text "," ++
    Decimal.ofInt bounds.width ++ text "," ++ Decimal.ofInt bounds.height

def formatState (ref : CefElementRef) : Bytes :=
  let states := if ref.focused then [text "focused"] else []
  let states := if ref.disabled then states ++ [text "disabled"] else states
  (text ",").intercalate states

/-! ### Formats -/

/-- A line of `FormatAsTSV`. -/
def tsvLine (ref : CefElementRef) : Bytes :=
  text "@e" ++ Decimal.ofInt ref.id ++ text "\t" ++ escapeTsv ref.role ++ text "\t" ++
    escapeTsv (truncate ref.name maxLenDefault) ++ text "\t" ++
    escapeTsv (truncate ref.value maxLenDefault) ++ text "\t" ++ formatBounds ref.bounds ++
    text "\t" ++ formatState ref ++ text "\n"

def formatAsTsv (refs : List CefElementRef) : Bytes :=
  refs.foldl (fun out ref =>
    -- Skip elements with empty bounds.
    if ref.bounds.isEmpty then out else out ++ tsvLine ref)
    (text "ref\trole\tname\tvalue\tbounds\tstate\n")

/-- A line of `FormatAsMarkdown`. -/
def markdownLine (ref : CefElementRef) : Bytes :=
  text "| @e" ++ Decimal.ofInt ref.id ++ text " | " ++ escapeMarkdown ref.role ++ text " | " ++
    escapeMarkdown (truncate ref.name maxLenDefault) ++ text " | " ++
    escapeMarkdown (truncate ref.value maxLenDefault) ++ text " | " ++ formatBounds ref.bounds ++
    text " | " ++ escapeMarkdown (formatState ref) ++ text " |\n"

def formatAsMarkdown (refs : List CefElementRef) : Bytes :=
  refs.foldl (fun out ref => if ref.bounds.isEmpty then out else out ++ markdownLine ref)
    (text "| Ref | Role | Name | Value | Bounds | State |\n" ++
      text "|-----|------|------|-------|--------|-------|\n")

/-- A line of `FormatAsTree`. -/
def treeLine (ref : CefElementRef) : Bytes :=
  text "- " ++ ref.role ++
    (if ref.name ≠ [] then text " \"" ++ truncate ref.name maxLenDefault ++ text "\"" else []) ++
    text " [ref=e" ++ Decimal.ofInt ref.id ++ text "]" ++
    (if ref.value ≠ [] then
      text " [value=\"" ++ truncate ref.value maxLenDefault ++ text "\"]" else []) ++
    (if ref.inputType ≠ [] then text " [type=" ++ ref.inputType ++ text "]" else []) ++
    (if ref.disabled then text " [disabled]" else []) ++
    (if ref.focused then text " [focused]" else []) ++ text "\n"

def formatAsTree (refs : List CefElementRef) : Bytes :=
  refs.foldl (fun out ref => out ++ treeLine ref) []

def format (refs : List CefElementRef) (format : Int) : Bytes :=
  if format = 1 then formatAsTsv refs
  else if format = 2 then formatAsMarkdown refs
  else formatAsTree refs

/-! ### Lines and cells -/

def shown (refs : List CefElementRef) : List CefElementRef := refs.filter (!·.bounds.isEmpty)

section

variable (ref : CefElementRef)

def tsvFields : List Bytes :=
  [text "@e" ++ Decimal.ofInt ref.id, escapeTsv ref.role,
    escapeTsv (truncate ref.name maxLenDefault), escapeTsv (truncate ref.value maxLenDefault),
    formatBounds ref.bounds, formatState ref]

def pageTexts : List Bytes :=
  [ref.role, truncate ref.name maxLenDefault, truncate ref.value maxLenDefault]

def markdownCells : List Bytes :=
  (text "@e" ++ Decimal.ofInt ref.id) :: (pageTexts ref).map escapeMarkdown ++
    [formatBounds ref.bounds, escapeMarkdown (formatState ref)]

lemma tsvLine_eq : tsvLine ref = (text "\t").intercalate (tsvFields ref) ++ [10] := by
  have htab : text "\t" = [9] := rfl
  have hline : text "\n" = [10] := rfl
  simp [tsvLine, tsvFields, htab, hline, List.intercalate]

lemma markdownLine_eq : markdownLine ref = EscapedText.row 124 32 (markdownCells ref) ++ [10] := by
  have hfirst : text "| @e" = [124, 32] ++ text "@e" := rfl
  have hbetween : text " | " = [32, 124, 32] := rfl
  have hlast : text " |\n" = [32, 124, 10] := rfl
  simp [markdownLine, markdownCells, pageTexts, EscapedText.row, hfirst, hbetween, hlast]

end

lemma foldl_lines (line : CefElementRef → Bytes) (refs : List CefElementRef) (out : Bytes) :
    refs.foldl (fun out ref => if ref.bounds.isEmpty then out else out ++ line ref) out =
      out ++ (shown refs).flatMap line := by
  induction refs generalizing out with
  | nil => exact (append_nil out).symm
  | cons ref refs ih =>
    rw [foldl_cons, ih, shown, shown]
    cases hempty : ref.bounds.isEmpty with
    | true => rw [filter_cons_of_neg (by simp [hempty]), if_pos rfl]
    | false =>
      rw [filter_cons_of_pos (by simp [hempty]), if_neg Bool.false_ne_true,
        flatMap_cons, append_assoc]

def endLines (lines : List Bytes) : Bytes := lines.flatMap fun line => line ++ [10]

/-- **The output as tab-separated values.** -/
theorem formatAsTsv_eq (refs : List CefElementRef) : formatAsTsv refs =
    endLines (text "ref\trole\tname\tvalue\tbounds\tstate" ::
      (shown refs).map fun ref => (text "\t").intercalate (tsvFields ref)) := by
  have hheader : text "ref\trole\tname\tvalue\tbounds\tstate\n" =
      text "ref\trole\tname\tvalue\tbounds\tstate" ++ [10] := rfl
  rw [formatAsTsv, foldl_lines, hheader, endLines, flatMap_cons, flatMap_map]
  exact congrArg _ (flatMap_congr fun ref _ => tsvLine_eq ref)

/-- The two lines in front of a table in Markdown. -/
def markdownHeader : List Bytes :=
  [text "| Ref | Role | Name | Value | Bounds | State |",
    text "|-----|------|------|-------|--------|-------|"]

theorem formatAsMarkdown_eq (refs : List CefElementRef) : formatAsMarkdown refs =
    endLines (markdownHeader ++
      (shown refs).map fun ref => EscapedText.row 124 32 (markdownCells ref)) := by
  have hheader : text "| Ref | Role | Name | Value | Bounds | State |\n" ++
      text "|-----|------|------|-------|--------|-------|\n" = endLines markdownHeader := rfl
  rw [formatAsMarkdown, foldl_lines, hheader, endLines, endLines, flatMap_append, flatMap_map]
  exact congrArg _ (flatMap_congr fun ref _ => markdownLine_eq ref)

lemma escapeMarkdown_eq (str : Bytes) : escapeMarkdown str = EscapedText.escape 92 124 str := rfl

end CefCore.Browser.SnapshotFormatter
