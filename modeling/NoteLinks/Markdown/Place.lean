import NoteLinks.Markdown.Break

/-!
# Places on a line

How far the text of a line is indented decides which blocks it belongs to. Indentation is counted in
columns: a space takes one, and a tab reaches to the next column whose number is a multiple of four.
A block may take only some of the columns of a tab; the others are then pending.
-/

namespace NoteLinks.Markdown

/-- A place on a line. -/
structure Place where
  /-- The last character before the place; a line break if the line begins here. -/
  before : Char
  /-- The number of characters since the last tab or the start of the line. -/
  column : Nat
  /-- The columns of the last tab that have not been taken. -/
  pending : Nat
  /-- The text from the place on, to the end of the document. -/
  rest : Text
deriving DecidableEq, Repr

namespace Place

def lineStart (t : Text) : Place := ⟨'\n', 0, 0, t⟩

/-- The number of columns that can be skipped, up to a limit, and the place after them. -/
def skip : (limit : Nat) → Place → Nat × Place
  | 0, p => (0, p)
  | limit + 1, p =>
    let more (p : Place) : Nat × Place :=
      let (n, q) := skip limit p
      (n + 1, q)
    if p.pending ≠ 0 then more { p with pending := p.pending - 1 }
    else
      match p.rest with
      | ' ' :: t => more ⟨' ', p.column + 1, 0, t⟩
      | '\t' :: t => more ⟨'\t', 0, 3 - p.column % 4, t⟩
      | _ => (0, p)

/-- The place after a number of characters that are no tabs. -/
def advance (n : Nat) (p : Place) : Place :=
  ⟨(p.rest.take n).getLast?.getD p.before, p.column + n, 0, p.rest.drop n⟩

/-- The place after all spaces and tabs. -/
def skipAll (p : Place) : Place :=
  let isGap (c : Char) : Bool := c == ' ' || c == '\t'
  let gap := p.rest.takeWhile isGap
  ⟨gap.getLast?.getD p.before, p.column + gap.length, 0, p.rest.dropWhile isGap⟩

def atEnd (p : Place) : Bool := (afterBreak? p.rest).isSome

/-- The characters between two places, of which the second follows the first. -/
def upTo (p q : Place) : Text := p.rest.take (p.rest.length - q.rest.length)

end Place

end NoteLinks.Markdown
