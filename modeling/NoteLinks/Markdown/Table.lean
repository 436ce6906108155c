import NoteLinks.Markdown.Container
import NoteLinks.Markdown.Line
import NoteLinks.Markdown.Source
import NoteLinks.Text.Punctuation

/-!
# Tables

A table begins with a line of headings and a line of dashes, which states how the columns are
aligned. Vertical bars separate the cells; they may also stand at both ends of a row. A backslash
keeps a bar from separating cells, and does not belong to the text of the cell.
-/

namespace NoteLinks.Markdown

/-! ### The line under the header -/
section Head

/-- What has been read of the line under the header. -/
structure HeadReader where
  /-- The columns so far, the last one first. -/
  columns : List Alignment
  /-- The alignment of the column that is being read. -/
  alignment : Alignment
  /-- Nothing has been read of the column. -/
  fresh : Bool
  /-- A dash has been read in the column. -/
  dashed : Bool
  anyBar : Bool
  anyDash : Bool

namespace HeadReader

def initial : HeadReader := ⟨[], .none, true, false, false, false⟩

/-- The alignment after a colon: on the left, on the right or on both sides of the dashes. -/
def align (fresh : Bool) : Alignment → Alignment
  | .none => if fresh then .left else .right
  | .left => if fresh then .left else .center
  | a => a

/-- The state after one more character. A column without dashes is none. -/
def read? (r : HeadReader) (c : Char) : Option HeadReader :=
  if c = ' ' then some r
  else if c = ':' then some { r with alignment := align r.fresh r.alignment, fresh := false }
  else if c = '-' then some { r with fresh := false, dashed := true, anyDash := true }
  else if c = '|' then
    if r.dashed then
      some ⟨r.alignment :: r.columns, .none, true, false, true, r.anyDash⟩
    else none
  else none

/-- The alignments of the columns at the end of the line. -/
def finish? (r : HeadReader) : Option (List Alignment) :=
  if r.anyBar && r.anyDash then
    some (if r.fresh then r.columns.reverse else (r.alignment :: r.columns).reverse)
  else none

end HeadReader

/-- The alignments of the columns that the line at a place states, and the text after the line. -/
def readTableHead? (p : Place) : Option (List Alignment × Text) :=
  let cut := cutLine p.rest
  let spaces := (cut.line.takeWhile (· == ' ')).length
  let line := cut.line.drop spaces
  if 3 < spaces ∨ p.rest.drop spaces = [] then none
  else
    let start : HeadReader := { HeadReader.initial with anyBar := line.head? == some '|' }
    let cells := if start.anyBar then line.drop 1 else line
    ((cells.foldlM HeadReader.read? start).bind HeadReader.finish?).map (·, cut.rest)

end Head

/-! ### The header -/
section Header

/-- The number of bars on a line and the text behind the last one; `skips` tells after which
characters a backslash is no bar's guard but part of an escape. -/
def bars (isEscape : Char → Bool) : Text → Nat × Text
  | [] => (0, [])
  | '\\' :: p :: t =>
    if isEscape p then bars isEscape t else bars isEscape (p :: t)
  | '|' :: t =>
    let (n, last) := bars isEscape t
    (n + 1, if n = 0 then t else last)
  | _ :: t => bars isEscape t
termination_by t => t.length

/-- The number of cells of a header with some bars, of which the last has a text behind it. -/
def headerCells (line : Text) (count : Nat) (behindLast : Text) : Nat :=
  let inner := if (skipBlanks line).head? = some '|' then count - 1 else count
  if behindLast.all isInlineBlank then inner else inner + 1

/-- The alignments of the table whose header ends before `below`, if it has as many cells as the
line there has columns; and the text after that line. -/
def tableBelow? (cs : List Container) (cells : Nat) (below : Text) :
    Option (List Alignment × Text) :=
  let (inPlace, p) := Container.enterLine cs below
  match if inPlace then readTableHead? p else none with
  | some (alignments, rest) => if alignments.length = cells then some (alignments, rest) else none
  | none => none

/-- The first line of a paragraph is the header of a table: its alignments, and the text after the
line under the header. -/
def tableStart? (cs : List Container) (cut : LineCut) : Option (List Alignment × Text) :=
  let (count, last) := bars Text.isAsciiPunctuation cut.line
  -- an odd number of backslashes guards the line break, so the line goes on
  let broken := (cut.line.reverse.takeWhile (· == '\\')).length % 2 = 1 ∧ cut.rest ≠ []
  if cut.ending = [] ∨ count = 0 ∨ broken then none
  else tableBelow? cs (headerCells cut.line count last) cut.rest

/-- A table begins within a paragraph: its header begins with a bar. -/
def tableInterrupts (cs : List Container) (t : Text) : Bool :=
  let cut := cutLine t
  let (count, last) := bars (· == '|') cut.line
  t.head? == some '|' && cut.ending != [] &&
    (tableBelow? cs (headerCells cut.line count last) cut.rest).isSome

/-- The line ends a paragraph before it, also by being the header of a table. -/
def interruptsParagraph (cs : List Container) (inPlace : Bool) (t : Text) : Bool :=
  interrupts inPlace false t || tableInterrupts cs t

end Header

/-! ### Rows -/
section Rows

/-- The cell at the start of a text, and the text from the bar on that ends it. -/
def cutCell : Text → Source × Text
  | [] => ([], [])
  | '|' :: t => ([], '|' :: t)
  | '\\' :: '|' :: t =>
    let (cell, rest) := cutCell t
    (⟨'\\', .guard⟩ :: ⟨'|', .text⟩ :: cell, rest)
  -- the second backslash guards the bar, though it is escaped itself
  | '\\' :: '\\' :: '|' :: t =>
    let (cell, rest) := cutCell t
    (⟨'\\', .text⟩ :: ⟨'\\', .guard⟩ :: ⟨'|', .text⟩ :: cell, rest)
  | '\\' :: p :: t =>
    if Text.isAsciiPunctuation p then
      let (cell, rest) := cutCell t
      (⟨'\\', .text⟩ :: ⟨p, .text⟩ :: cell, rest)
    else
      let (cell, rest) := cutCell (p :: t)
      (⟨'\\', .text⟩ :: cell, rest)
  | c :: t =>
    let (cell, rest) := cutCell t
    (⟨c, .text⟩ :: cell, rest)
termination_by t => t.length

/-- The cells of a row. Each one takes a character or stands before a bar, so the length of the line
is enough for `fuel`. -/
def readCells : (fuel : Nat) → Text → List Source
  | 0, _ => []
  | fuel + 1, t =>
    match skipBlanks (if t.head? = some '|' then t.drop 1 else t) with
    | [] => []
    | u =>
      let (cell, rest) := cutCell u
      cell.dropEndBlanks :: readCells fuel rest

def readRow (line : Text) : List Source := readCells (line.length + 1) line

/-- The rows of a table, and the text after the last one. -/
def readRows (cs : List Container) : (fuel : Nat) → Text → List (List Source) × Text
  | 0, t => ([], t)
  | fuel + 1, t =>
    let (inPlace, p) := Container.enterLine cs t
    let cut := cutLine p.skipAll.rest
    if !inPlace || interrupts true true p.skipAll.rest then ([], t)
    else
      match readRow cut.line with
      | [] => ([], t)
      | row =>
        let (rows, rest) := readRows cs fuel cut.rest
        (row :: rows, rest)

end Rows

end NoteLinks.Markdown
