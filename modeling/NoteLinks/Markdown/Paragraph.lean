import NoteLinks.Markdown.Table

/-!
# Paragraphs

A paragraph goes on until a line is blank or begins another block. Such a line of text continues it
even if it does not continue all containers around it. The line after the first can make the
paragraph a table, and a line of dashes or equals signs makes it a heading.
-/

namespace NoteLinks.Markdown

/-- What a paragraph turns out to be. -/
inductive ParagraphKind where
  | plain (text : Source)
  | heading (level : Nat) (text : Source)
  | table (alignments : List Alignment) (header : Text)

/-- The characters of a line of text with the marks and the blanks before it. The blanks of a line
of nothing else belong to its text. -/
def lineSource (marks blanks line : Text) : Source :=
  if line.all isInlineBlank then
    let gap := (marks ++ blanks).reverse.takeWhile isInlineBlank
    Source.ofText .mark ((marks ++ blanks).take ((marks ++ blanks).length - gap.length)) ++
      Source.ofText .text (gap.reverse ++ line)
  else Source.ofText .mark marks ++ Source.ofText .indent blanks ++ Source.ofText .text line

/-- The rest of a paragraph, after a line of which `ending` is the end and with the text so far; and
the text after the paragraph. Every line takes a character, so the length of the text is enough for
`fuel`. -/
def readParagraphLines (cs : List Container) :
    (fuel : Nat) → (sofar : Source) → (ending : Text) → Text → ParagraphKind × Text
  | 0, sofar, _, t => (.plain sofar, t)
  | fuel + 1, sofar, ending, t =>
    let (inPlace, p) := Container.enterLine cs t
    let (n, q) := p.skip 4
    let start := q.skipAll
    let cut := cutLine start.rest
    let line := lineSource ((Place.lineStart t).upTo p) (p.upTo start) cut.line
    -- a line may go on without the marks of the containers, but then it underlines nothing
    match if n < 4 && inPlace then underline? q.rest else none with
    | some (level, rest) => (.heading level sofar.dropEndBlanks, rest)
    | none =>
      if n < 4 && interruptsParagraph cs inPlace q.rest || start.atEnd then
        (.plain sofar.dropEndBlanks, t)
      else
        readParagraphLines cs fuel (sofar ++ Source.ofText .text ending ++ line) cut.ending cut.rest

/-- The paragraph at a place, and the text after it. -/
def readParagraph (cs : List Container) (p : Place) : ParagraphKind × Text :=
  let cut := cutLine p.rest
  match tableStart? cs cut with
  | some (alignments, rest) => (.table alignments cut.line, rest)
  | none =>
    let first := Source.ofText .mark [p.before] ++ Source.ofText .text cut.line
    readParagraphLines cs (p.rest.length + 1) first cut.ending cut.rest

end NoteLinks.Markdown
