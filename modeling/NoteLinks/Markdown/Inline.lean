import NoteLinks.Markdown.Autolink
import NoteLinks.Markdown.Emphasis
import NoteLinks.Markdown.Label
import NoteLinks.Markdown.RawHtml
import NoteLinks.Markdown.Source
import NoteLinks.Markdown.Target

/-!
# Text with spans

The text of a paragraph, a heading or a cell is read from left to right. What is understood at once
becomes events; runs of emphasis marks and opening brackets wait until it is known what closes them.
A closing bracket is matched with the last opening one: the spans between them are the text of a
link or an image, if a target follows or a definition has the label. Emphasis does not reach across
the bounds of a link.
-/

namespace NoteLinks.Markdown

/-- A target and the folded label that links refer to it by. -/
structure Definition where
  label : Text
  target : Target
deriving DecidableEq, Repr

/-- What the definitions of a document say. -/
structure Definitions where
  targets : List Definition
  /-- The folded labels of the footnotes. -/
  footnotes : List Text
deriving DecidableEq, Repr

namespace Definitions

/-- The target of a label; of several definitions with one label the first counts. -/
def target? (ds : Definitions) (label : Text) : Option Target :=
  (ds.targets.find? (·.label == foldLabel label)).map (·.target)

def hasFootnote (ds : Definitions) (label : Text) : Bool := ds.footnotes.contains (foldLabel label)

end Definitions

/-! ### Open brackets -/
section Brackets

/-- An opening bracket that nothing has closed yet. -/
structure Bracket where
  image : Bool
  /-- A link may still be made of it: no link stands inside. -/
  active : Bool
  /-- The source after the bracket. -/
  after : Source
deriving DecidableEq, Repr

/-- What has been read of a source. -/
inductive Item where
  | span (s : Span)
  | bracket (b : Bracket)
deriving DecidableEq, Repr

namespace Item

def events (es : List Event) : Item := .span (.events es)

def text (t : Text) : Item := .span (.text t)

/-- The item as a span; a bracket that is still open is text. -/
def toSpan : Item → Span
  | span s => s
  | bracket b => .text (if b.image then "![" else "[")

/-- The item after a link was made behind it: links do not nest. -/
def deactivate : Item → Item
  | bracket b => if b.image then bracket b else bracket { b with active := false }
  | item => item

end Item

/-- The items after the last open bracket, that bracket and the items before it. The last item is
the first of the list. -/
def splitBracket? : List Item → Option (List Item × Bracket × List Item)
  | [] => none
  | .bracket b :: rest => some ([], b, rest)
  | item :: rest => (splitBracket? rest).map fun (above, b, below) => (item :: above, b, below)

def itemEvents (items : List Item) : List Event := resolveEmphasis (items.reverse.map Item.toSpan)

/-- The items after a link or an image with a target and the items of its text. -/
def makeLink (b : Bracket) (target : Target) (above below : List Item) : List Item :=
  if b.image then
    .events (wrap (.image target.destination target.title) (itemEvents above)) :: below
  else
    .events (wrap (.link target.destination target.title) (itemEvents above)) ::
      below.map Item.deactivate

/-- The items after a reference to a footnote: no bracket around it is closed any more. -/
def makeFootnote (b : Bracket) (label : Text) (below : List Item) : List Item :=
  let events := (if b.image then [.text "!"] else []) ++ [.footnoteReference label]
  .events events :: below.map fun item => .span item.toSpan

/-- A closing bracket that refers to nothing, with the bracket it would have closed. -/
def plainBracket (b : Bracket) (above below : List Item) : List Item :=
  .text "]" :: above ++ .span (Item.bracket b).toSpan :: below

/-- What the text after a closing bracket may add to it: a label, or empty brackets, which repeat
what stands before them. A backslash before the bracket does not take the meaning from it. -/
inductive Suffix where
  | label (l : Text)
  | empty

/-- The addition to a closing bracket that a text begins with, and what follows it. -/
def readSuffix? (t : Text) : Option (Suffix × Text) :=
  let t := if (['\\', '['] : Text).isPrefixOf t then t.drop 1 else t
  match t with
  | '[' :: ']' :: rest => some (.empty, rest)
  | t =>
    match readReference? t with
    | some (.link label, rest) => some (.label label, rest)
    | _ => none

/-- The items after a closing bracket that no target follows, and the source after it. -/
def closeReference (ds : Definitions) (b : Bracket) (above below : List Item) (rest : Source) :
    List Item × Source :=
  let own := b.after.take (b.after.length - (rest.length + 1))
  let plain := (plainBracket b above below, rest)
  let link (label : Text) (after : Source) : List Item × Source :=
    match ds.target? label with
    | some target => (makeLink b target above below, after)
    | none => plain
  let repeated (after : Source) : List Item × Source :=
    match reference? ('[' :: Source.view Role.inCode own ++ [']']) with
    | some (.footnote label) =>
      if ds.hasFootnote label then (makeFootnote b label below, rest) else plain
    | some (.link label) => link label after
    | none => plain
  match Source.read? Role.inCode readSuffix? rest with
  | some (.label label, after) => link label after
  | some (.empty, after) => repeated after
  | none => repeated rest

/-- The items after a closing bracket, and the source after it. -/
def closeBracket (ds : Definitions) (items : List Item) (rest : Source) : List Item × Source :=
  match splitBracket? items with
  | none => (.text "]" :: items, rest)
  | some (above, b, below) =>
    if !b.active then (plainBracket b above below, rest)
    else
      match Source.read? Role.inTarget readInlineTarget? rest with
      | some (target, after) => (makeLink b target above below, after)
      | none => closeReference ds b above below rest

end Brackets

/-! ### Code -/
section Code

/-- The character that marks code. -/
def codeMark : Char := '\x60'

/-- The text up to a run of exactly `n` code marks, and what follows it; `run` marks were just
read, and `read` is the text so far in reverse order. -/
def codeRest? (n run : Nat) (read : Text) : Text → Option (Text × Text)
  | [] => if run = n then some ((read.drop n).reverse, []) else none
  | c :: t =>
    if c = codeMark then codeRest? n (run + 1) (c :: read) t
    else if run = n then some ((read.drop n).reverse, c :: t)
    else codeRest? n 0 (c :: read) t

/-- The content of code as it is shown: line breaks are blanks, and one blank at either end does not
belong to it. -/
def codeContent (t : Text) : Text :=
  let t := t.map fun c => if isBreak c then ' ' else c
  if t.head? = some ' ' ∧ t.getLast? = some ' ' ∧ t.any (· != ' ') then (t.drop 1).dropLast else t

end Code

/-! ### Pieces -/
section Pieces

def Source.head (s : Source) : Option Char := s.head?.map Glyph.char

/-- The source after a line break that it begins with. -/
def Source.afterBreak? : Source → Option Source
  | ⟨'\r', .text⟩ :: ⟨'\n', .text⟩ :: s => some s
  | ⟨c, .text⟩ :: s => if isBreak c then some s else none
  | _ => none

/-- The source without backslashes that guard bars at its start. -/
def Source.skipGuards (s : Source) : Source := s.dropWhile (·.role = .guard)

/-- The number of times a character stands at the start of a source, and the rest. -/
def splitRun (c : Char) (s : Source) : Nat × Source :=
  ((s.takeWhile (· = ⟨c, .text⟩)).length, s.dropWhile (· = ⟨c, .text⟩))

/-- The item after the blanks that a source begins with: at the end of a line they are a break, and
a hard one if there are two or more. -/
def readBlanks (s : Source) : Item × Source :=
  let isBlank (g : Glyph) : Bool := g.role = .text && isInlineBlank g.char
  let blanks := s.takeWhile isBlank
  let rest := s.dropWhile isBlank
  match Source.afterBreak? rest with
  | some below =>
    (if 2 ≤ blanks.length then .span (.hardBreak false) else .events [.softBreak], below)
  | none => (.text (blanks.map Glyph.char), rest)

/-- The item after a `<`. -/
def readAngle (s : Source) : Item × Source :=
  if Source.head s = some '\\' then (.text "<", s)
  else
    match Source.read? Role.inRaw readAutolink? s with
    | some ((destination, shown), rest) =>
      (.events (wrap (.link destination []) [.text shown]), rest)
    | none =>
      match Source.read? Role.inRaw readMarkup? s <|> Source.read? Role.inTag readTag? s with
      | some (html, rest) => (.events [.inlineHtml html], rest)
      | none => (.text "<", s)

/-- The item after a backslash, and the character that was read last. -/
def readEscape (s : Source) : Item × Char × Source :=
  match Source.afterBreak? s with
  | some below => (.span (.hardBreak true), '\n', below)
  | none =>
    match Source.skipGuards s with
    | g :: rest =>
      if Text.isAsciiPunctuation g.char then (.text [g.char], g.char, rest)
      else (.text "\\", '\\', s)
    | [] => (.text "\\", '\\', [])

/-- The item of code marks. -/
def readCode (s : Source) : Item × Source :=
  let (n, rest) := splitRun codeMark s
  match Source.read? Role.inCode (codeRest? n 0 []) rest with
  | some (content, after) => (.events [.code (codeContent content)], after)
  | none => (.text (List.replicate n codeMark), rest)

/-- The item of a run of marks of emphasis, with the characters before and after it. -/
def runItem (mark : Char) (length : Nat) (before after : Option Char) : Item :=
  let r := Run.between mark length before after
  .span (if r.opens || r.closes then .run r else .text r.text)

end Pieces

/-! ### Reading -/
section Reading

/-- The items of a source, added to those before it; `before` is the last character that was read,
or another of its class. Each step reads at least one character, so the length of the source is
enough for `fuel`. -/
def readItems (ds : Definitions) :
    (fuel : Nat) → (before : Option Char) → List Item → Source → List Item
  | 0, _, items, _ => items
  | _, _, items, [] => items
  | fuel + 1, before, items, g :: s =>
    let c := g.char
    let add (last : Char) (r : Item × Source) : List Item :=
      readItems ds fuel (some last) (r.1 :: items) r.2
    -- blanks and marks that belong to the blocks around the text show nothing
    if g.role ≠ .text then readItems ds fuel (some c) items s
    else if isInlineBlank c then add c (readBlanks (g :: s))
    else if c = '\\' then
      let (item, last, rest) := readEscape s
      add last (item, rest)
    else if c = codeMark then add c (readCode (g :: s))
    else if c = '<' then add c (readAngle s)
    else if c = '&' then
      match Source.read? Role.inRaw readCharacters? s with
      | some (d, rest) => add ';' (.text d, rest)
      | none => add c (.text [c], s)
    else if c = '*' ∨ c = '_' ∨ c = '~' then
      let (n, rest) := splitRun c (g :: s)
      add c (runItem c n before (Source.head rest), rest)
    else if c = '[' then add c (.bracket ⟨false, true, s⟩, s)
    else if c = '!' ∧ Source.head s = some '[' then
      add c (.bracket ⟨true, true, s.drop 1⟩, s.drop 1)
    else if c = ']' then
      let (items, rest) := closeBracket ds items s
      readItems ds fuel (some c) items rest
    else
      match Source.afterBreak? (g :: s) with
      | some below => add c (.events [.softBreak], below)
      | none => add c (.text [c], s)

/-- Events with texts that follow each other made one. -/
def mergeTexts : List Event → List Event
  | [] => []
  | .text t :: es =>
    match mergeTexts es with
    | .text u :: rest => .text (t ++ u) :: rest
    | rest => .text t :: rest
  | e :: es => e :: mergeTexts es

/-- The events of a source. -/
def inlineEvents (ds : Definitions) (s : Source) : List Event :=
  mergeTexts (itemEvents (readItems ds s.length none [] s))

end Reading

end NoteLinks.Markdown
