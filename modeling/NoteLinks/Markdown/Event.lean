import NoteLinks.Text

/-!
# Markdown events

A Markdown document is a sequence of events: the start and the end of its blocks and spans, and the
text between them. In the events of a document every start has its end, but functions on events
take any sequence.
-/

namespace NoteLinks.Markdown

/-- How the cells of a column are aligned. -/
inductive Alignment where
  | none
  | left
  | center
  | right
deriving DecidableEq, Repr

/-- The start of a block or span. -/
inductive Tag where
  | paragraph
  | heading (level : Nat)
  | blockQuote
  /-- A block of code; a fenced one has an info text. -/
  | codeBlock (info : Option Text)
  | htmlBlock
  /-- A list; an ordered one has a first number. -/
  | list (first : Option Nat)
  | item
  | footnoteDefinition (label : Text)
  | table (alignments : List Alignment)
  | tableHead
  | tableRow
  | tableCell
  | emphasis
  | strong
  | strikethrough
  | link (destination title : Text)
  | image (destination title : Text)
deriving DecidableEq, Repr

/-- The end of a block or span. -/
inductive TagEnd where
  | paragraph
  | heading (level : Nat)
  | blockQuote
  | codeBlock
  | htmlBlock
  | list (ordered : Bool)
  | item
  | footnoteDefinition
  | table
  | tableHead
  | tableRow
  | tableCell
  | emphasis
  | strong
  | strikethrough
  | link
  | image
deriving DecidableEq, Repr

/-- The end that belongs to a start. -/
def Tag.toEnd : Tag → TagEnd
  | paragraph => .paragraph
  | heading level => .heading level
  | blockQuote => .blockQuote
  | codeBlock _ => .codeBlock
  | htmlBlock => .htmlBlock
  | list first => .list first.isSome
  | item => .item
  | footnoteDefinition _ => .footnoteDefinition
  | table _ => .table
  | tableHead => .tableHead
  | tableRow => .tableRow
  | tableCell => .tableCell
  | emphasis => .emphasis
  | strong => .strong
  | strikethrough => .strikethrough
  | link _ _ => .link
  | image _ _ => .image

/-- A part of a document. -/
inductive Event where
  | start (tag : Tag)
  | stop (tag : TagEnd)
  | text (t : Text)
  | code (t : Text)
  | html (t : Text)
  | inlineHtml (t : Text)
  | softBreak
  | hardBreak
  | rule
  | footnoteReference (label : Text)
  | taskMarker (checked : Bool)
deriving DecidableEq, Repr

/-- Events between the start and the end of a tag. -/
def wrap (tag : Tag) (es : List Event) : List Event := .start tag :: es ++ [.stop tag.toEnd]

end NoteLinks.Markdown
