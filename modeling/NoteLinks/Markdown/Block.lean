import NoteLinks.Markdown.Container
import NoteLinks.Markdown.Inline

/-!
# Blocks

A document is a tree of blocks. Quotes, lists, their items and footnotes hold other blocks; the
leaves are paragraphs, headings, code, raw HTML, rules and tables. The paragraphs of a tight list
are written without their bounds.
-/

namespace NoteLinks.Markdown

/-- A block that holds text. -/
inductive Leaf where
  /-- A paragraph, which may begin with the mark of a task. -/
  | paragraph (mark : Option Bool) (text : Source)
  /-- A heading, which may be made of such a paragraph. -/
  | heading (level : Nat) (mark : Option Bool) (text : Source)
  | code (info : Option Text) (content : Text)
  | html (content : Text)
  | rule
  | table (alignments : List Alignment) (header : List Source) (rows : List (List Source))
  /-- The mark of a task without any text. -/
  | task (done : Bool)
deriving DecidableEq, Repr

/-- A block of a document. -/
inductive Block where
  | leaf (l : Leaf)
  | container (c : Container) (children : List Block)

/-! ### Events of leaves -/
section Leaves

/-- As many cells as there are columns: the surplus is dropped and what is missing is empty. -/
def fitRow (columns : Nat) (cells : List Source) : List Source :=
  (cells ++ List.replicate (columns - cells.length) []).take columns

def rowEvents (ds : Definitions) (columns : Nat) (cells : List Source) : List Event :=
  (fitRow columns cells).flatMap fun cell => wrap .tableCell (inlineEvents ds cell)

/-- The events of a text that may begin with the mark of a task. -/
def markedEvents (ds : Definitions) (mark : Option Bool) (text : Source) : List Event :=
  (mark.map Event.taskMarker).toList ++ inlineEvents ds text

/-- The events of a leaf; a tight paragraph has no bounds. -/
def Leaf.events (ds : Definitions) (tight : Bool) : Leaf → List Event
  | .paragraph mark text =>
    let events := markedEvents ds mark text
    if tight then events else wrap .paragraph events
  | .heading level mark text => wrap (.heading level) (markedEvents ds mark text)
  | .code info content => wrap (.codeBlock info) (if content = [] then [] else [.text content])
  | .html content => wrap .htmlBlock [.html content]
  | .rule => [.rule]
  | .table alignments header rows =>
    wrap (.table alignments)
      (wrap .tableHead (rowEvents ds alignments.length header) ++
        rows.flatMap fun row => wrap .tableRow (rowEvents ds alignments.length row))
  | .task done => [.taskMarker done]

end Leaves

/-! ### Events of blocks -/
section Blocks

mutual

def Block.events (ds : Definitions) (tightens tight : Bool) : Block → List Event
  | .leaf l => l.events ds tight
  | .container c children => wrap c.tag (blocksEvents ds c.tightens tightens children)

/-- The events of blocks one after the other. -/
def blocksEvents (ds : Definitions) (tightens tight : Bool) : List Block → List Event
  | [] => []
  | b :: bs => b.events ds tightens tight ++ blocksEvents ds tightens tight bs

end

end Blocks

end NoteLinks.Markdown
