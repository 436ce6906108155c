import NoteLinks.Markdown.Container
import NoteLinks.Markdown.Line

/-!
# Verbatim blocks

Indented code, code between fences and blocks of raw HTML keep their lines as they are, without the
marks of the containers around them. Columns of a tab that a container did not take become spaces.
Every line takes at least a character, so the length of the text is enough for the `fuel` of the
functions here.
-/

namespace NoteLinks.Markdown

/-- A line of a verbatim block, after columns that are pending. -/
def verbatimLine (pending : Nat) (line : Text) : Text :=
  List.replicate pending ' ' ++ dropReturn line

/-! ### Indented code -/
section Indented

/-- Lines of code, and what follows them. -/
structure CodeLines where
  /-- The lines, each with whether it is blank. -/
  lines : List (Bool × Text)
  rest : Text

/-- The lines of indented code; the first one is known to be blank or not. -/
def readCodeLines (cs : List Container) :
    (fuel pending : Nat) → (blank : Bool) → Text → CodeLines
  | 0, _, _, t => ⟨[], t⟩
  | fuel + 1, pending, blank, t =>
    let (line, rest) := cutFeed t
    let (inPlace, p) := Container.enterLine cs rest
    let (n, q) := p.skip 4
    let first := (blank, verbatimLine pending line)
    if inPlace ∧ (n = 4 ∨ q.atEnd) ∧ q.rest ≠ [] then
      let below := readCodeLines cs fuel q.pending (startsBlank q.rest) q.rest
      ⟨first :: below.lines, below.rest⟩
    else ⟨[first], rest⟩

namespace CodeLines

/-- The code without blank lines at its end. -/
def content (c : CodeLines) : Text :=
  ((c.lines.reverse.dropWhile (·.1)).reverse.map (·.2)).flatten

def endsBlank (c : CodeLines) : Bool := (c.lines.getLast?.map (·.1)).getD false

end CodeLines

end Indented

/-! ### Fenced code -/
section Fenced

/-- The lines of code up to the closing fence, and what follows that. The opening fence was indented
by a number of columns, which are taken from each line. -/
def readFenced (cs : List Container) (f : Fence) (indent : Nat) :
    (fuel : Nat) → Text → Text × Text
  | 0, t => ([], t)
  | fuel + 1, t =>
    let (inPlace, p) := Container.enterLine cs t
    let (_, start) := p.skip indent
    let (n, close) := start.skip (4 - indent)
    if !inPlace then ([], t)
    else
      match if n < 4 - indent then f.afterClosing? close.rest else none with
      | some rest => ([], rest)
      | none =>
        let (line, below) := cutFeed start.rest
        let (content, rest) := readFenced cs f indent fuel below
        (verbatimLine start.pending line ++ content, rest)

end Fenced

/-! ### Raw HTML -/
section Html

/-- The lines of a block of HTML, and what follows it. -/
def readHtmlLines (cs : List Container) (ending : HtmlEnd) :
    (fuel pending : Nat) → Text → Text × Text
  | 0, _, t => ([], t)
  | fuel + 1, pending, t =>
    let (line, rest) := cutFeed t
    let (inPlace, p) := Container.enterLine cs rest
    let ended :=
      match ending with
      | .mark m => Text.hasMark m line
      | .blankLine => startsBlank p.rest
    let shown := verbatimLine pending line
    if !inPlace || ended || p.rest == [] then (shown, rest)
    else
      let (content, rest) := readHtmlLines cs ending fuel p.pending p.rest
      (shown ++ content, rest)

end Html

end NoteLinks.Markdown
