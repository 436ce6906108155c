import NoteLinks.Yaml.Gap

/-!
# Verbatim YAML scalars

A bar or an angle bracket at the end of a line begins a scalar that stands on the lines after it,
indented further than what it belongs to. After a bar the lines are kept; after an angle bracket
they are folded, except where one is indented further than the others. The header tells what is done
with the line ends after the text and may state the indentation.
-/

namespace NoteLinks.Yaml.Verbatim

/-! ### Headers -/
section Headers

/-- What is done with the line ends after the text: one is kept, none or all. -/
inductive Chomping where
  | clip
  | strip
  | keep
deriving DecidableEq, Repr

/-- What the first line of the scalar says. -/
structure Header where
  chomping : Chomping := .clip
  /-- The indentation of the lines beyond what the scalar belongs to. -/
  indent : Option Nat := none
deriving DecidableEq, Repr

/-- The chomping at the start of a text, and what follows it. -/
def chomping : Text → Chomping × Text
  | '-' :: t => (.strip, t)
  | '+' :: t => (.keep, t)
  | t => (.clip, t)

/-- The indentation stated at the start of a text, and what follows it. It is not zero. -/
def indent? : Text → Option (Option Nat × Text)
  | [] => some (none, [])
  | c :: t =>
    if c = '0' then none
    else if c.isDigit then some (some (c.toNat - 48), t)
    else some (none, c :: t)

/-- What follows the current line, if nothing but a comment is left on it. -/
def endLine? (t : Text) : Option Text :=
  match t.dropWhile isSpace with
  | [] => some []
  | c :: rest =>
    if isBreak c then some rest
    else if c = '#' then some ((rest.dropWhile (!isBreak ·)).drop 1)
    else none

/-- The header at the start of a text, with the chomping before or after the indentation, and what
follows its line. -/
def header? (t : Text) : Option (Header × Text) := do
  let (first, rest) := chomping t
  let (indent, rest) ← indent? rest
  let (chomping, rest) := if first = .clip then chomping rest else (first, rest)
  some (⟨chomping, indent⟩, ← endLine? rest)

end Headers

/-! ### Lines -/
section Lines

/-- What stands before a line that holds something. -/
structure Margin where
  /-- The ends of the empty lines. -/
  breaks : Text
  /-- The number of spaces before the text of the line. -/
  column : Nat
  /-- The greatest number of spaces on any of the lines. -/
  widest : Nat
deriving DecidableEq, Repr

/-- The margin from here on, and what follows it; `column` spaces stand before the text on its line.
At most `indent` spaces of a line are taken, or all if the indentation is not known; a tab cannot
stand among them. -/
def margin? (indent : Option Nat) : (column : Nat) → Text → Option (Margin × Text)
  | column, [] => some (⟨[], column, column⟩, [])
  | column, c :: t =>
    let isMargin := indent.all (column < ·)
    if c = ' ' ∧ isMargin then margin? indent (column + 1) t
    else if c = '\t' ∧ isMargin then none
    else if isBreak c then
      (margin? indent 0 t).map fun (m, rest) =>
        (⟨c :: m.breaks, m.column, max column m.widest⟩, rest)
    else some (⟨[], column, column⟩, c :: t)

/-- What the end of a line and the ends of the empty lines after it mean between two lines. They are
folded if `mayFold` holds. -/
def join (mayFold : Bool) (lineEnd empty : Text) : Text :=
  if mayFold && lineEnd == ['\n'] then if empty = [] then [' '] else empty
  else lineEnd ++ empty

/-- What the end of the last line and the ends of the empty lines after it mean. -/
def tail (chomping : Chomping) (lineEnd empty : Text) : Text :=
  match chomping with
  | .strip => []
  | .clip => lineEnd
  | .keep => lineEnd ++ empty

/-- The text from a line on, and what follows it. The line before ended with `lineEnd`, was indented
further if `wasIndented` says so, and is followed by the margin `m`. -/
def lines? (folded : Bool) (chomping : Chomping) (indent : Nat) :
    (fuel : Nat) → (lineEnd : Text) → (wasIndented : Bool) → (m : Margin) → Text →
      Option (Text × Text)
  | 0, _, _, _, _ => none
  | fuel + 1, lineEnd, wasIndented, m, t =>
    if t = [] ∨ m.column ≠ indent then some (tail chomping lineEnd m.breaks, t)
    else do
      let isIndented := t.head?.any isSpace
      let line := t.takeWhile (!isBreak ·)
      let rest := t.dropWhile (!isBreak ·)
      let (next, after) ← margin? (some indent) 0 (rest.drop 1)
      let (more, after) ← lines? folded chomping indent fuel (rest.take 1) isIndented next after
      let before := join (folded && !wasIndented && !isIndented) lineEnd m.breaks
      some (before ++ line ++ more, after)

/-- The scalar whose mark, a bar or an angle bracket, begins a text, and what follows it. Its lines
are indented by at least `least`. -/
def read? (least : Nat) : Text → Option (Text × Text)
  | [] => none
  | mark :: t => do
    let (header, rest) ← header? t
    let stated := header.indent.map (least - 1 + ·)
    let (m, rest) ← margin? stated 0 rest
    let indent := stated.getD (max m.widest (max least 1))
    lines? (mark == '>') header.chomping indent (rest.length + 1) [] false m rest

end Lines

end NoteLinks.Yaml.Verbatim
