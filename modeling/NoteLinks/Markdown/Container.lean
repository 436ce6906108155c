import NoteLinks.Markdown.Event
import NoteLinks.Markdown.Place

/-!
# Containers

Quotes, lists, their items and footnotes hold other blocks. A line belongs to a container if it
begins with its mark or is indented far enough.
-/

namespace NoteLinks.Markdown

/-- A block that holds blocks. -/
inductive Container where
  | quote
  /-- A list: the character that marks its items, its first number and whether no blank line stands
  between its parts. -/
  | list (mark : Char) (first : Option Nat) (tight : Bool)
  /-- An item of a list, whose text is indented by a number of columns. -/
  | item (indent : Nat)
  | footnote (label : Text)
deriving DecidableEq, Repr

namespace Container

def isList : Container → Bool
  | list .. => true
  | _ => false

def isItem : Container → Bool
  | item _ => true
  | _ => false

def isFootnote : Container → Bool
  | footnote _ => true
  | _ => false

/-- The tag of a container. -/
def tag : Container → Tag
  | quote => .blockQuote
  | list _ first _ => .list first
  | item _ => .item
  | footnote label => .footnoteDefinition label

/-- Paragraphs that are children of the container's children lose their bounds. -/
def tightens : Container → Bool
  | list _ _ tight => tight
  | _ => false

/-- The place behind an indentation; a line that ends before it is indented enough. -/
def enterIndent? (indent : Nat) (p : Place) : Option Place :=
  let (n, q) := p.skip indent
  if n = indent ∨ q.atEnd then some q else none

/-- The place behind what continues the container on a line. -/
def enter? (c : Container) (p : Place) : Option Place :=
  match c with
  | quote =>
    let (_, q) := p.skip 3
    match q.rest with
    | '>' :: _ => some ((q.advance 1).skip 1).2
    | _ => none
  | list .. => some p
  | item indent => enterIndent? indent p
  | footnote _ => enterIndent? 4 p

/-- The number of containers, the outermost first, that a line continues, and the place behind what
continues them. -/
def enterAll : List Container → Place → Nat × Place
  | [], p => (0, p)
  | c :: cs, p =>
    match c.enter? p with
    | none => (0, p)
    | some q =>
      let (n, q) := enterAll cs q
      (n + 1, q)

/-- What the containers take from the start of a line: whether all of them are continued, and the
place behind. -/
def enterLine (cs : List Container) (t : Text) : Bool × Place :=
  let (n, p) := enterAll cs (.lineStart t)
  (n == cs.length, p)

end Container

end NoteLinks.Markdown
