import NoteLinks.Markdown.Block
import NoteLinks.Markdown.Definition
import NoteLinks.Markdown.Paragraph
import NoteLinks.Markdown.Verbatim

/-!
# Reading blocks

A document is read block by block. At the start of a line the containers that it does not continue
end, then new containers begin, and then either the line is blank or a leaf begins there. A leaf is
read to its end at once, and the next block begins on the line after it.
-/

namespace NoteLinks.Markdown

/-! ### What is open -/
section Open

/-- A container whose end has not been read. -/
structure Frame where
  container : Container
  children : List Block

/-- The state between two blocks. -/
structure BlockReader where
  /-- The blocks of the document that have ended. -/
  blocks : List Block
  /-- The open containers, the innermost first. -/
  frames : List Frame
  /-- The last line was blank. -/
  blank : Bool
  /-- An item has begun of which nothing but the marker was read. -/
  fresh : Bool
  definitions : Definitions

namespace BlockReader

def initial : BlockReader := ⟨[], [], false, false, ⟨[], []⟩⟩

/-- The open containers, the outermost first. -/
def containers (r : BlockReader) : List Container := r.frames.reverse.map Frame.container

def innermost? (r : BlockReader) : Option Container := r.frames.head?.map Frame.container

def addBlock (r : BlockReader) (b : Block) : BlockReader :=
  match r.frames with
  | [] => { r with blocks := r.blocks ++ [b] }
  | f :: fs => { r with frames := { f with children := f.children ++ [b] } :: fs }

def addLeaf (r : BlockReader) (l : Leaf) : BlockReader := r.addBlock (.leaf l)

/-- A new container within the innermost one. -/
def openContainer (r : BlockReader) (c : Container) : BlockReader :=
  { r with frames := ⟨c, []⟩ :: r.frames }

/-- The innermost container ends. -/
def closeContainer (r : BlockReader) : BlockReader :=
  match r.frames with
  | [] => r
  | f :: fs =>
    ({ r with frames := fs, fresh := r.fresh && !f.container.tightens }).addBlock
      (.container f.container f.children)

/-- The innermost `n` containers end. -/
def closeContainers (r : BlockReader) : Nat → BlockReader
  | 0 => r
  | n + 1 => r.closeContainer.closeContainers n

end BlockReader

end Open

/-! ### Lists -/
section Lists

namespace BlockReader

/-- An item without text ends if a blank line follows its marker. -/
def finishFresh (r : BlockReader) : BlockReader :=
  let emptied := r.fresh && r.blank && (r.innermost?.map Container.isItem).getD false
  { (if emptied then r.closeContainer else r) with fresh := false }

/-- The list whose item is the innermost container is not tight. -/
def loosen (r : BlockReader) : BlockReader :=
  match r.frames with
  | f :: ⟨.list mark first _, items⟩ :: fs =>
    { r with frames := f :: ⟨.list mark first false, items⟩ :: fs }
  | _ => r

/-- A block begins that is no item: a list at the innermost place ends, and a blank line before the
block loosens the list around it. -/
def finishList (r : BlockReader) : BlockReader :=
  let r := r.finishFresh
  let r := if (r.innermost?.map Container.isList).getD false then r.closeContainer else r
  { (if r.blank then r.loosen else r) with blank := false }

/-- A list begins, unless the list at the innermost place goes on with an item of the same mark. -/
def continueList (r : BlockReader) (m : Marker) : BlockReader :=
  let r := r.finishFresh
  let newList : BlockReader :=
    { (r.finishList.openContainer (.list m.mark m.number true)) with blank := false }
  match r.frames with
  | ⟨.list mark first tight, items⟩ :: fs =>
    if mark = m.mark then
      { r with frames := ⟨.list mark first (tight && !r.blank), items⟩ :: fs, blank := false }
    else newList
  | _ => newList

end BlockReader

end Lists

/-! ### Containers -/
section Containers

/-- What follows the containers that begin on a line. -/
inductive Opening where
  /-- The text at a place. -/
  | text (p : Place)
  /-- A paragraph that begins with the mark of a task. -/
  | task (done : Bool) (p : Place)
  /-- Nothing: the text is that of the next line. -/
  | nothing (rest : Text)

namespace BlockReader

/-- An item begins at a place that is indented by a number of columns; what follows its marker, or
the mark of a task behind that. -/
def openItem (r : BlockReader) (indent : Nat) (m : Marker) (p : Place) : BlockReader × Opening :=
  let r := r.continueList m
  let base := indent + m.width + 1
  let (_, behind) := (p.advance m.width).skip 1
  match afterBlankLine? behind.rest with
  | some rest => ({ r.openContainer (.item base) with fresh := true }, .nothing rest)
  | none =>
    let (n, deep) := behind.skip 4
    -- four more blanks belong to the text, which is code then
    let (indent, start) := if n < 4 then (base + n, deep) else (base, behind)
    let r := r.openContainer (.item indent)
    match readTask? start with
    | none => (r, .text start)
    | some (done, q) =>
      match afterBlankLine? q.rest with
      | some rest => ({ r.addLeaf (.task done) with fresh := true }, .nothing rest)
      | none => (r, .task done q.skipAll)

/-- A footnote begins; another one ends at its start. -/
def openFootnote (r : BlockReader) (label : Text) : BlockReader :=
  let r := r.finishList
  let r := if (r.innermost?.map Container.isFootnote).getD false then r.closeContainer else r
  let known := r.definitions.footnotes ++ [foldLabel label]
  { (r.openContainer (.footnote label)) with
    definitions := { r.definitions with footnotes := known } }

/-- The containers that begin at a place, and what follows them. Each container takes a character,
so the length of the text is enough for `fuel`. -/
def openContainers : (fuel : Nat) → BlockReader → Place → BlockReader × Opening
  | 0, r, p => (r, .text p)
  | fuel + 1, r, p =>
    let (indent, q) := p.skip 4
    if indent = 4 then (r, .text p)
    else
      match readFootnoteMarker? q.rest with
      | some (label, rest) =>
        openContainers fuel (r.openFootnote label) { Place.lineStart (skipBlanks rest) with
          before := ':' }
      | none =>
        -- a rule may look like the marker of an item, but it is none
        match if (afterRule? q.rest).isSome then none else readMarker? q.rest with
        | some m =>
          match r.openItem indent m q with
          | (r, .text start) => openContainers fuel r start
          | finished => finished
        | none =>
          if q.rest.head? = some '>' then
            openContainers fuel (r.finishList.openContainer .quote) ((q.advance 1).skip 1).2
          else (r, .text p)

end BlockReader

end Containers

/-! ### Leaves -/
section Leaves

namespace BlockReader

/-- The state after a blank line. It counts for nothing within a quote. An item with nothing but its
marker holds nothing of what follows. -/
def addBlank (r : BlockReader) : BlockReader :=
  match r.frames with
  | ⟨.quote, _⟩ :: _ => r
  | ⟨.item indent, children⟩ :: fs =>
    let indent := if r.fresh then 0 else indent
    { r with frames := ⟨.item indent, children⟩ :: fs, blank := true }
  | _ => { r with blank := true }

/-- A paragraph at a place, which may begin with the mark of a task. -/
def addParagraph (r : BlockReader) (mark : Option Bool) (p : Place) : BlockReader × Text :=
  let cs := r.containers
  match readParagraph cs p with
  | (.plain text, rest) => (r.addLeaf (.paragraph mark text), rest)
  | (.heading level text, rest) => (r.addLeaf (.heading level mark text), rest)
  | (.table alignments header, below) =>
    let (rows, rest) := readRows cs below.length below
    (r.addLeaf (.table alignments (readRow header) rows), rest)

/-- Definitions at a place, and the paragraph after them. -/
def addDefinitions (r : BlockReader) (p : Place) : BlockReader × Text :=
  let (ds, after) := takeDefinitions r.containers p.rest.length p
  let targets := r.definitions.targets ++ ds
  let r := { r with definitions := { r.definitions with targets := targets } }
  match after with
  | .inl q => r.addParagraph none q
  | .inr rest => (r.finishList, rest)

/-- A heading that begins with number signs. -/
def addHeading (r : BlockReader) (level : Nat) (t : Text) : BlockReader × Text :=
  let cut := cutLine t
  let text := dropClosing (skipBlanks (cut.line.drop level))
  let inlines := Source.ofText .mark [' '] ++ Source.ofText .text text
  (r.addLeaf (.heading level none inlines), cut.rest)

/-- Code after a fence that is indented by a number of columns. -/
def addFenced (r : BlockReader) (indent : Nat) (f : Fence) (behind : Text) : BlockReader × Text :=
  let (info, below) := cutFeed (skipBlanks behind)
  let info := (info.reverse.dropWhile isTagBlank).reverse
  let (content, rest) := readFenced r.containers f indent (below.length + 1) below
  (r.addLeaf (.code (some (unescape info)) content), rest)

/-- A leaf at a place, where the line is not blank. -/
def addText (r : BlockReader) (p : Place) : BlockReader × Text :=
  let r := r.finishList
  let cs := r.containers
  let (indent, q) := p.skip 4
  let t := q.rest
  let html :=
    match t with
    | '<' :: u => htmlBlock? u
    | _ => none
  -- an indentation of four columns makes code, whatever follows
  if indent = 4 then
    let code := readCodeLines cs t.length q.pending false t
    ({ r.addLeaf (.code none code.content) with blank := code.endsBlank }, code.rest)
  else
    match html with
    | some ending =>
      let (content, rest) := readHtmlLines cs ending t.length indent t
      (r.addLeaf (.html content), rest)
    | none =>
      match afterRule? t, headingLevel? t, readFence? t with
      | some rest, _, _ => (r.addLeaf .rule, rest)
      | none, some level, _ => r.addHeading level t
      | none, none, some (f, behind) => r.addFenced indent f behind
      | none, none, none => r.addDefinitions q

/-- The state after one more block, and the text after it. -/
def readBlock (r : BlockReader) (t : Text) : BlockReader × Text :=
  let (n, p) := Container.enterAll r.containers (.lineStart t)
  match openContainers (t.length + 1) (r.closeContainers (r.frames.length - n)) p with
  | (r, .nothing rest) => (r, rest)
  | (r, .task done q) => r.addParagraph (some done) q
  | (r, .text q) =>
    match afterBlankLine? q.rest with
    | some rest => (r.addBlank, rest)
    | none => r.addText q

/-- The state after all blocks of a text. Each takes a character, so the length of the text is
enough for `fuel`. -/
def readAll : (fuel : Nat) → BlockReader → Text → BlockReader
  | 0, r, _ => r
  | _, r, [] => r
  | fuel + 1, r, t =>
    let (r, rest) := r.readBlock t
    readAll fuel r rest

end BlockReader

def readBlocks (t : Text) : List Block × Definitions :=
  let r := BlockReader.readAll t.length .initial t
  let r := r.closeContainers r.frames.length
  (r.blocks, r.definitions)

end Leaves

end NoteLinks.Markdown
