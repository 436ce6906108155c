import NoteLinks.Markdown.Break

/-!
# Sources

The text of a paragraph is scattered over lines that also hold the marks of the blocks around it and
the indentation of the text. Some readers see these characters and some do not: a comment keeps all
of them, a tag keeps the indentation but not the marks, and a title keeps neither. A source is
therefore the sequence of all characters, each with its role, and a reader of plain text is run on
the characters of the roles that it sees.
-/

namespace NoteLinks.Markdown

/-- What a character is in the text of a block. -/
inductive Role where
  | text
  /-- A blank before the text of a line. -/
  | indent
  /-- A character before that, which belongs to the blocks around the text. -/
  | mark
  /-- A backslash that keeps a vertical bar from ending a cell. -/
  | guard
deriving DecidableEq, Repr

namespace Role

/-- Comments and autolinks are made of all characters. -/
def inRaw (_ : Role) : Bool := true

/-- Tags are made of all characters but the marks of blocks. -/
def inTag : Role → Bool
  | mark => false
  | _ => true

/-- Code and labels are made of text and its indentation. -/
def inCode : Role → Bool
  | text => true
  | indent => true
  | _ => false

/-- Targets are made of text alone. -/
def inTarget : Role → Bool
  | text => true
  | _ => false

end Role

/-- A character and its role. -/
structure Glyph where
  char : Char
  role : Role
deriving DecidableEq, Repr

/-- The characters of a block of text. -/
abbrev Source := List Glyph

namespace Source

def ofText (role : Role) (t : Text) : Source := t.map (⟨·, role⟩)

/-- The characters of the roles that are seen. -/
def view (seen : Role → Bool) (s : Source) : Text := (s.filter fun g => seen g.role).map Glyph.char

/-- The source behind its first `n` characters of the roles that are seen. -/
def skip (seen : Role → Bool) : Nat → Source → Source
  | 0, s => s
  | _, [] => []
  | n + 1, g :: s => skip seen (if seen g.role then n else n + 1) s
termination_by _ s => s.length

/-- What a reader of text finds at the start of a source, and the source behind it. -/
def read? {α : Type} (seen : Role → Bool) (reader : Text → Option (α × Text)) (s : Source) :
    Option (α × Source) :=
  let t := s.view seen
  (reader t).map fun (found, rest) => (found, s.skip seen (t.length - rest.length))

/-- A source without blanks of its text at the end. -/
def dropEndBlanks (s : Source) : Source :=
  (s.reverse.dropWhile fun g => g.role = .text && isInlineBlank g.char).reverse

end Source

end NoteLinks.Markdown
