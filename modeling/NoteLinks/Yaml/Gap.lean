import NoteLinks.Text

/-!
# White space in YAML

Spaces and line ends separate the parts of a document. Inside a scalar a gap between two words is
part of the text: spaces on one line are kept, and line ends are folded, so that a single one
becomes a space and empty lines become line feeds.
-/

namespace NoteLinks.Yaml

/-! ### Characters -/
section Characters

/-- A character that a document may hold: no control characters but those that space text. -/
def isPermitted (c : Char) : Bool :=
  let n := c.toNat
  n == 0x09 || n == 0x0A || n == 0x0D || (0x20 ≤ n && n ≤ 0x7E) || n == 0x85 ||
    (0xA0 ≤ n && n ≤ 0xFFFD) || 0x10000 ≤ n

def isSpace (c : Char) : Bool := c == ' ' || c == '\t'

/-- A line feed, or a line or paragraph separator. -/
def isBreak (c : Char) : Bool := c == '\n' || c == Char.ofNat 0x2028 || c == Char.ofNat 0x2029

def isBlank (c : Char) : Bool := isSpace c || isBreak c

/-- A character that has a meaning of its own inside brackets and braces. -/
def isFlowMark (c : Char) : Bool := [',', '[', ']', '{', '}'].contains c

/-- Carriage returns and next-line characters as line feeds. -/
def unifyLineEnds : Text → Text
  | '\r' :: '\n' :: t => '\n' :: unifyLineEnds t
  | c :: t => (if c = '\r' ∨ c = Char.ofNat 0x85 then '\n' else c) :: unifyLineEnds t
  | [] => []

/-- No word goes on here. -/
def atGap (t : Text) : Bool := t.head?.all isBlank

/-- The mark `---` or `...` that stands at the start of a line around documents. -/
def isDocumentMark (t : Text) : Bool :=
  (t.take 3 == ("---" : Text) || t.take 3 == ("..." : Text)) && atGap (t.drop 3)

end Characters

/-! ### Gaps between words -/
section Gaps

/-- White space between two words of a scalar. -/
structure Gap where
  /-- The spaces before the first line end. -/
  spaces : Text
  /-- The line ends. -/
  breaks : Text
  /-- If there are line ends, the number of spaces before the next word. -/
  column : Nat
deriving DecidableEq, Repr

namespace Gap

/-- The line ends among the white space at the start of a text, the spaces after the last of them,
and what follows; `column` spaces stand before the text on its line. A tab cannot be one of the
first `least` characters of a line. -/
def breaks? (least : Nat) : (column : Nat) → Text → Option (Text × Nat × Text)
  | column, [] => some ([], column, [])
  | column, c :: t =>
    if isBreak c then (breaks? least 0 t).map fun (bs, rest) => (c :: bs, rest)
    else if c = '\t' ∧ column < least then none
    else if isSpace c then breaks? least (column + 1) t
    else some ([], column, c :: t)

/-- The gap at the start of a text, and what follows it. -/
def read? (least : Nat) (t : Text) : Option (Gap × Text) :=
  let spaces := t.takeWhile isSpace
  let rest := t.dropWhile isSpace
  if rest.head?.any isBreak then
    (breaks? least 0 rest).map fun (breaks, column, u) => (⟨spaces, breaks, column⟩, u)
  else some (⟨spaces, [], 0⟩, rest)

def endsLine (g : Gap) : Bool := g.breaks != []

/-- What a single line feed or more of them are folded to. Other line ends are kept. -/
def fold : Text → Text
  | ['\n'] => [' ']
  | '\n' :: breaks => breaks
  | breaks => breaks

/-- What the gap means as a part of a text. -/
def text (g : Gap) : Text := if g.endsLine then fold g.breaks else g.spaces

/-- The scalar ends after the gap, because a mark around documents follows on a line of its own. -/
def leavesDocument (g : Gap) (after : Text) : Bool :=
  g.endsLine && g.column == 0 && isDocumentMark after

end Gap

end Gaps

end NoteLinks.Yaml
