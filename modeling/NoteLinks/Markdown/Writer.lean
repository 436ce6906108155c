import NoteLinks.Decimal
import NoteLinks.Html.Reference
import NoteLinks.Markdown.Event
import NoteLinks.Percent

/-!
# Markdown events as HTML

Events are written one after the other. The writer knows whether it is at the start of a line, which
column of a table it is in and how the footnotes are numbered; inside an image it writes the plain
text of what it meets, for the `alt` attribute.
-/

namespace NoteLinks.Markdown

/-! ### Attributes -/
section Attributes

/-- A character of an attribute as it is written: an apostrophe is a reference too. -/
def escapeAttributeChar : Char → Text
  | '\'' => "&#39;"
  | c => Html.escapeValueChar c

/-- A text as the value of an attribute. -/
def escapeAttribute (t : Text) : Text := t.flatMap escapeAttributeChar

end Attributes

/-! ### Addresses -/
section Addresses

/-- The ASCII characters that stand for themselves in a written address. -/
def isSafe (c : Char) : Bool :=
  c.isAlphanum ||
    ['!', '#', '$', '%', '(', ')', '*', '+', ',', '-', '.', '/', ':', ';', '=', '?', '@', '^',
      '_', '~'].contains c

/-- A byte of an address as it is written, where the ASCII characters of a class stand for
themselves. -/
def writeAddressByte (safe : Char → Bool) (b : UInt8) : Text :=
  let c := Char.ofNat b.toNat
  if c = '&' then "&amp;"
  else if c = '\'' then "&#x27;"
  else if b < 0x80 && safe c then [c]
  else Percent.escape b

/-- An address as it is written where the ASCII characters of a class stand for themselves. -/
def writeAddress (safe : Char → Bool) (t : Text) : Text :=
  (Utf8.encode t).flatMap (writeAddressByte safe)

/-- An address as it is written in an attribute. -/
def writeHref (t : Text) : Text := writeAddress isSafe t

end Addresses

/-! ### Events -/
section Events

/-- What the writer knows between two events. -/
structure WriterState where
  /-- The text so far is empty or ends with a line feed. -/
  atLineStart : Bool
  inTableHead : Bool
  alignments : List Alignment
  /-- The number of the next cell in its row. -/
  cell : Nat
  /-- The labels of the footnotes met so far; the first has the number one. -/
  footnotes : List Text
  /-- Inside an image: its title and the number of starts without an end. -/
  image : Option (Text × Nat)

namespace WriterState

def initial : WriterState := ⟨true, false, [], 0, [], none⟩

/-- The state after `t` was written. -/
def after (s : WriterState) (t : Text) : WriterState :=
  match t.getLast? with
  | none => s
  | some c => { s with atLineStart := c == '\n' }

/-- `t`, on a line of its own. -/
def onNewLine (s : WriterState) (t : Text) : Text := if s.atLineStart then t else '\n' :: t

/-- The number of a footnote, and the state that knows it. -/
def number (s : WriterState) (label : Text) : Nat × WriterState :=
  match s.footnotes.findIdx? (· == label) with
  | some i => (i + 1, s)
  | none => (s.footnotes.length + 1, { s with footnotes := s.footnotes ++ [label] })

end WriterState

/-- The style of a cell. -/
def alignmentStyle : Alignment → Text
  | .none => ""
  | .left => " style=\"text-align: left\""
  | .center => " style=\"text-align: center\""
  | .right => " style=\"text-align: right\""

/-- The title attribute of a link or an image, with the quote before it. -/
def titleAttribute (title : Text) : Text :=
  if title = [] then [] else "\" title=\"" ++ escapeAttribute title

def codeStart (info : Option Text) : Text :=
  match (info.getD []).takeWhile (· != ' ') with
  | [] => "<pre><code>"
  | language => "<pre><code class=\"language-" ++ escapeAttribute language ++ "\">"

/-- What is written for the start of a block or span, and the state after it. -/
def writeStart (s : WriterState) : Tag → Text × WriterState
  | .paragraph => (s.onNewLine "<p>", s)
  | .heading level => (s.onNewLine ("<h" ++ Decimal.write level ++ ">"), s)
  | .blockQuote => (s.onNewLine "<blockquote>\n", s)
  | .codeBlock info => (s.onNewLine (codeStart info), s)
  | .htmlBlock => ([], s)
  | .list none => (s.onNewLine "<ul>\n", s)
  | .list (some n) =>
    (s.onNewLine
      (if n = 1 then "<ol>\n" else "<ol start=\"" ++ Decimal.write n ++ "\">\n"), s)
  | .item => (s.onNewLine "<li>", s)
  | .footnoteDefinition label =>
    let (n, s') := s.number label
    (s.onNewLine
      ("<div class=\"footnote-definition\" id=\"" ++ escapeAttribute label ++
        "\"><sup class=\"footnote-definition-label\">" ++ Decimal.write n ++ "</sup>"), s')
  | .table alignments => ("<table>", { s with alignments := alignments })
  | .tableHead => ("<thead><tr>", { s with inTableHead := true, cell := 0 })
  | .tableRow => ("<tr>", { s with cell := 0 })
  | .tableCell =>
    ((if s.inTableHead then ("<th" : Text) else "<td") ++
      alignmentStyle (s.alignments[s.cell]?.getD .none) ++ ">", s)
  | .emphasis => ("<em>", s)
  | .strong => ("<strong>", s)
  | .strikethrough => ("<del>", s)
  | .link destination title =>
    ("<a href=\"" ++ writeHref destination ++ titleAttribute title ++ "\">", s)
  | .image destination title =>
    ("<img src=\"" ++ writeHref destination ++ "\" alt=\"", { s with image := some (title, 0) })

/-- What is written for the end of a block or span, and the state after it. -/
def writeStop (s : WriterState) : TagEnd → Text × WriterState
  | .paragraph => ("</p>\n", s)
  | .heading level => ("</h" ++ Decimal.write level ++ ">\n", s)
  | .blockQuote => ("</blockquote>\n", s)
  | .codeBlock => ("</code></pre>\n", s)
  | .htmlBlock => ([], s)
  | .list true => ("</ol>\n", s)
  | .list false => ("</ul>\n", s)
  | .item => ("</li>\n", s)
  | .footnoteDefinition => ("</div>\n", s)
  | .table => ("</tbody></table>\n", s)
  | .tableHead => ("</tr></thead><tbody>\n", { s with inTableHead := false })
  | .tableRow => ("</tr>\n", s)
  | .tableCell =>
    (if s.inTableHead then "</th>" else "</td>", { s with cell := s.cell + 1 })
  | .emphasis => ("</em>", s)
  | .strong => ("</strong>", s)
  | .strikethrough => ("</del>", s)
  | .link => ("</a>", s)
  | .image => ([], s)

/-- What is written for an event outside images, and the state after it. -/
def writeEvent (s : WriterState) : Event → Text × WriterState
  | .start tag => writeStart s tag
  | .stop tag => writeStop s tag
  | .text t => (Html.escapeText t, { s with atLineStart := t.getLast? == some '\n' })
  | .code t => ("<code>" ++ Html.escapeText t ++ "</code>", s)
  | .html t => (t, s)
  | .inlineHtml t => (t, s)
  | .softBreak => ("\n", s)
  | .hardBreak => ("<br />\n", s)
  | .rule => (s.onNewLine "<hr />\n", s)
  | .footnoteReference label =>
    let (n, s') := s.number label
    ("<sup class=\"footnote-reference\"><a href=\"#" ++ escapeAttribute label ++ "\">" ++
      Decimal.write n ++ "</a></sup>", s')
  | .taskMarker true => ("<input disabled=\"\" type=\"checkbox\" checked=\"\"/>\n", s)
  | .taskMarker false => ("<input disabled=\"\" type=\"checkbox\"/>\n", s)

/-- What is written for an event inside an image with a title, and the state after it. -/
def writeAlt (s : WriterState) (title : Text) (depth : Nat) : Event → Text × WriterState
  | .start _ => ([], { s with image := some (title, depth + 1) })
  | .stop _ =>
    match depth with
    | 0 => (titleAttribute title ++ "\" />", { s with image := none })
    | depth + 1 => ([], { s with image := some (title, depth) })
  | .text t => (escapeAttribute t, s)
  | .code t => (escapeAttribute t, s)
  | .inlineHtml t => (escapeAttribute t, s)
  | .html _ => ([], s)
  | .softBreak => (" ", s)
  | .hardBreak => (" ", s)
  | .rule => (" ", s)
  | .footnoteReference label =>
    let (n, s') := s.number label
    ("[" ++ Decimal.write n ++ "]", s')
  | .taskMarker true => ("[x]", s)
  | .taskMarker false => ("[ ]", s)

/-- What is written for an event, and the state after it. -/
def writeStep (s : WriterState) (e : Event) : Text × WriterState :=
  let (t, s') :=
    match s.image with
    | some (title, depth) => writeAlt s title depth e
    | none => writeEvent s e
  (t, s'.after t)

/-- The HTML of events, from a given state on. -/
def writeFrom (s : WriterState) : List Event → Text
  | [] => []
  | e :: es => (writeStep s e).1 ++ writeFrom (writeStep s e).2 es

def write (es : List Event) : Text := writeFrom .initial es

end Events

end NoteLinks.Markdown
