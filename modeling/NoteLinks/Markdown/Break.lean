import NoteLinks.Text

/-!
# Blanks and line breaks in Markdown

A line ends with a line feed, a carriage return, or both in this order. The functions here read
blanks and line breaks at the start of a text and return what follows them.
-/

namespace NoteLinks.Markdown

/-! ### Blanks -/
section Blanks

/-- A blank within a line. -/
def isInlineBlank (c : Char) : Bool := c == ' ' || c == '\t' || c == '\x0b' || c == '\x0c'

/-- A character that ends a line. -/
def isBreak (c : Char) : Bool := c == '\n' || c == '\r'

/-- A blank or a line break. -/
def isTagBlank (c : Char) : Bool := isInlineBlank c || isBreak c

/-- The text without the blanks at its start that stay on its line. -/
def skipBlanks (t : Text) : Text := t.dropWhile isInlineBlank

/-- The text without blanks and line breaks at its start. -/
def skipTagBlanks (t : Text) : Text := t.dropWhile isTagBlank

def dropEndBlanks (t : Text) : Text := (t.reverse.dropWhile isInlineBlank).reverse

end Blanks

/-! ### Lines -/
section Lines

/-- The text after the line break that it begins with. The end of the document ends its last line
too. -/
def afterBreak? : Text → Option Text
  | [] => some []
  | '\n' :: t => some t
  | '\r' :: '\n' :: t => some t
  | '\r' :: t => some t
  | _ => none

/-- The text after its first line, if that holds nothing but blanks. -/
def afterBlankLine? (t : Text) : Option Text := afterBreak? (skipBlanks t)

def startsBlank (t : Text) : Bool := (afterBlankLine? t).isSome

/-- A line, the characters that end it, and the text after them. -/
structure LineCut where
  line : Text
  ending : Text
  rest : Text
deriving DecidableEq, Repr

def cutLine (t : Text) : LineCut :=
  let below := t.dropWhile (!isBreak ·)
  let rest := (afterBreak? below).getD []
  ⟨t.takeWhile (!isBreak ·), below.take (below.length - rest.length), rest⟩

/-- The text up to and with its first line feed, and the text after it. Code and raw HTML are cut
into lines at line feeds alone. -/
def cutFeed (t : Text) : Text × Text :=
  match t.dropWhile (· != '\n') with
  | [] => (t, [])
  | _ :: rest => (t.takeWhile (· != '\n') ++ ['\n'], rest)

/-- A line of code or of raw HTML without the carriage return before its last character. -/
def dropReturn (line : Text) : Text :=
  match line.reverse with
  | c :: '\r' :: before => if c.toNat < 0x80 then before.reverse ++ [c] else line
  | _ => line

end Lines

end NoteLinks.Markdown
