import NoteLinks.Decimal
import NoteLinks.Markdown.Label
import NoteLinks.Markdown.Place
import NoteLinks.Markdown.RawHtml

/-!
# Lines of Markdown

What a line means depends on its first characters: a marker of a quote or of a list item, a heading,
a rule, a fence or a tag. The functions here read the start of a text, where the indentation of the
line is already behind.
-/

namespace NoteLinks.Markdown

/-! ### Rules and headings -/
section Headings

/-- The text after a rule: a line with three or more of one mark and nothing else but spaces and
tabs. -/
def afterRule? (t : Text) : Option Text :=
  let cut := cutLine t
  match cut.line with
  | c :: _ =>
    if (c = '*' ∨ c = '-' ∨ c = '_') ∧ cut.line.all (fun d => d == c || d == ' ' || d == '\t') ∧
        3 ≤ cut.line.count c then
      some cut.rest
    else none
  | [] => none

/-- The level of the heading whose number signs a text begins with. -/
def headingLevel? (t : Text) : Option Nat :=
  let level := (t.takeWhile (· == '#')).length
  match t.dropWhile (· == '#') with
  | [] => if 1 ≤ level ∧ level ≤ 6 then some level else none
  | c :: _ => if 1 ≤ level ∧ level ≤ 6 ∧ isTagBlank c then some level else none

/-- A text without the spaces at its end. -/
def dropSpaces (t : Text) : Text := (t.reverse.dropWhile (· == ' ')).reverse

/-- The text of a heading without the number signs that close it, which a space sets apart. -/
def dropClosing (line : Text) : Text :=
  let t := dropSpaces line
  match (t.reverse.dropWhile (· == '#')).reverse with
  | [] => []
  | closed => if closed.getLast? = some ' ' then dropSpaces closed else t

/-- The level of the heading that a line under a paragraph makes of it, and the text after the
line. -/
def underline? (t : Text) : Option (Nat × Text) :=
  match t with
  | '=' :: _ => (afterBlankLine? (t.dropWhile (· == '='))).map (1, ·)
  | '-' :: _ => (afterBlankLine? (t.dropWhile (· == '-'))).map (2, ·)
  | _ => none

end Headings

/-! ### Fences -/
section Fences

/-- A fence: its mark and its length. -/
structure Fence where
  mark : Char
  length : Nat
deriving DecidableEq, Repr

/-- The fence that a text begins with and the text behind it. Behind code marks there are no others
on the line. -/
def readFence? (t : Text) : Option (Fence × Text) :=
  match t with
  | c :: _ =>
    if c = '\x60' ∨ c = '~' then
      let length := (t.takeWhile (· == c)).length
      let behind := t.dropWhile (· == c)
      if 3 ≤ length ∧ (c = '~' ∨ !(cutFeed behind).1.contains c) then some (⟨c, length⟩, behind)
      else none
    else none
  | [] => none

/-- The text after a line that closes what a fence has opened. The end of the document closes it
too. -/
def Fence.afterClosing? (f : Fence) (t : Text) : Option Text :=
  match t with
  | [] => some []
  | _ =>
    if f.length ≤ (t.takeWhile (· == f.mark)).length then
      afterBreak? ((t.dropWhile (· == f.mark)).dropWhile (· == ' '))
    else none

end Fences

/-! ### Markers -/
section Markers

/-- The marker of a list item: the character that tells lists apart, and the number. -/
structure Marker where
  mark : Char
  number : Option Nat
  /-- The number of characters of the marker. -/
  width : Nat
deriving DecidableEq, Repr

/-- A list marker is followed by a space, a tab or the end of the line. -/
def endsMarker (t : Text) : Bool :=
  match t with
  | [] => true
  | c :: _ => c == ' ' || c == '\t' || isBreak c

/-- The list marker that a text begins with, which might as well be a rule. -/
def readMarker? (t : Text) : Option Marker :=
  match t with
  | [] => none
  | c :: rest =>
    if c = '-' ∨ c = '+' ∨ c = '*' then if endsMarker rest then some ⟨c, none, 1⟩ else none
    else
      let digits := t.takeWhile Char.isDigit
      match t.dropWhile Char.isDigit with
      | d :: rest =>
        if digits ≠ [] ∧ digits.length ≤ 9 ∧ (d = '.' ∨ d = ')') ∧ endsMarker rest then
          some ⟨d, some (Decimal.value 0 digits), digits.length + 1⟩
        else none
      | [] => none

/-- The item may begin within a paragraph: it is the first of its list, and some text follows its
marker on this line or the next. -/
def Marker.interrupts (m : Marker) (t : Text) : Bool :=
  (m.number.isNone || m.number == some 1) &&
    match afterBlankLine? (t.drop m.width) with
    | some below => !startsBlank below
    | none => true

/-- The task that an item begins with: whether it is done, and the place behind it. -/
def readTask? (p : Place) : Option (Bool × Place) :=
  let (_, q) := p.skip 3
  match q.rest with
  | '[' :: x :: ']' :: b :: _ =>
    if !isTagBlank b then none
    else if isInlineBlank x then some (false, q.advance 3)
    else if x = 'x' ∨ x = 'X' then some (true, q.advance 3)
    else none
  | _ => none

/-- The label of the footnote whose definition a text begins, and the text behind the colon. -/
def readFootnoteMarker? (t : Text) : Option (Text × Text) :=
  match readFootnoteLabel? t with
  | some (label, ':' :: rest) => some (label, rest)
  | _ => none

/-- The line ends a paragraph before it; `inPlace` says that it lies within the same blocks. -/
def interrupts (inPlace inTable : Bool) (t : Text) : Bool :=
  (afterBreak? t).isSome || (afterRule? t).isSome || (headingLevel? t).isSome ||
    (readFence? t).isSome || t.head? == some '>' ||
    (match readMarker? t with
      | some m => !inPlace || inTable || m.interrupts t
      | none => false) ||
    (match t with
      | '<' :: u => (interruptingHtml? u).isSome
      | _ => false) ||
    (readFootnoteMarker? t).isSome

end Markers

end NoteLinks.Markdown
