import NoteLinks.Markdown.Break
import NoteLinks.Markdown.Escape

/-!
# Targets of links

A link or an image leads to a destination and may have a title. Both stand in parentheses behind the
text of the link, or in a definition elsewhere. A destination is enclosed in angle brackets or has
no blanks; a title is enclosed in quotes or parentheses.
-/

namespace NoteLinks.Markdown

/-- Where a link or an image leads, and its title. -/
structure Target where
  destination : Text
  title : Text
deriving DecidableEq, Repr

/-! ### Destinations -/
section Destinations

/-- A destination after `<`, up to the `>` that closes it. -/
def bracketed? : Text → Option (Text × Text)
  | [] => none
  | '<' :: _ => none
  | '>' :: rest => some ([], rest)
  | '\\' :: p :: t =>
    if Text.isAsciiPunctuation p then (bracketed? t).map fun (d, rest) => ('\\' :: p :: d, rest)
    else (bracketed? (p :: t)).map fun (d, rest) => ('\\' :: d, rest)
  | c :: t => if isBreak c then none else (bracketed? t).map fun (d, rest) => (c :: d, rest)
termination_by t => t.length

/-- A bare destination opens no parenthesis within more than this number of others. -/
def maxParentheses : Nat := 5

/-- A bare destination with `depth` parentheses open; it ends at a blank or at a parenthesis that
closes none of its own, and closes all that it has opened. -/
def bare? (depth : Nat) : Text → Option (Text × Text)
  | [] => if depth = 0 then some ([], []) else none
  | '(' :: t =>
    if maxParentheses < depth then none
    else (bare? (depth + 1) t).map fun (d, rest) => ('(' :: d, rest)
  | ')' :: t =>
    match depth with
    | 0 => some ([], ')' :: t)
    | depth + 1 => (bare? depth t).map fun (d, rest) => (')' :: d, rest)
  | '\\' :: p :: t =>
    if Text.isAsciiPunctuation p then (bare? depth t).map fun (d, rest) => ('\\' :: p :: d, rest)
    else (bare? depth (p :: t)).map fun (d, rest) => ('\\' :: d, rest)
  | c :: t =>
    if c.toNat ≤ 0x20 then if depth = 0 then some ([], c :: t) else none
    else (bare? depth t).map fun (d, rest) => (c :: d, rest)
termination_by t => t.length

/-- The destination that a text begins with, and what follows it. -/
def readDestination? : Text → Option (Text × Text)
  | '<' :: t => (bracketed? t).map fun (d, rest) => (unescape d, rest)
  | t => (bare? 0 t).map fun (d, rest) => (unescape d, rest)

end Destinations

/-! ### Titles -/
section Titles

/-- The rest of a title that `close` ends and in which `opening` may not stand. A carriage return
alone counts as a line feed. -/
def titleRest? (opening close : Char) : Text → Option (Text × Text)
  | [] => none
  | '\\' :: p :: t =>
    if Text.isAsciiPunctuation p then
      (titleRest? opening close t).map fun (title, rest) => (p :: title, rest)
    else (titleRest? opening close (p :: t)).map fun (title, rest) => ('\\' :: title, rest)
  | '\r' :: t =>
    -- a carriage return by itself is a line break as well
    let shown := if t.head? = some '\n' then '\r' else '\n'
    (titleRest? opening close t).map fun (title, rest) => (shown :: title, rest)
  | '&' :: t =>
    match _h : readCharacters? t with
    | some (d, u) => (titleRest? opening close u).map fun (title, rest) => (d ++ title, rest)
    | none => (titleRest? opening close t).map fun (title, rest) => ('&' :: title, rest)
  | c :: t =>
    if c = close then some ([], t)
    else if c = opening then none
    else (titleRest? opening close t).map fun (title, rest) => (c :: title, rest)
termination_by t => t.length
decreasing_by
  · simp only [List.length_cons]; omega
  · simp
  · simp
  · have := length_of_readCharacters? ‹_›
    simp only [List.length_cons]; omega
  all_goals simp

/-- The character that ends a title which begins with a given one. -/
def titleEnd? : Char → Option Char
  | '"' => some '"'
  | '\'' => some '\''
  | '(' => some ')'
  | _ => none

/-- The title that a text begins with, and what follows it; a text that begins with no title has the
empty one. -/
def readTitle (t : Text) : Text × Text :=
  match t with
  | [] => ([], [])
  | c :: u => (((titleEnd? c).bind fun close => titleRest? c close u)).getD ([], t)

end Titles

/-! ### Targets in parentheses -/
section Parentheses

/-- The text without blanks at its start, among them at most one line break. -/
def skipGap (t : Text) : Text :=
  match skipBlanks t with
  | [] => []
  | c :: rest =>
    if isBreak c then skipBlanks ((afterBreak? (c :: rest)).getD []) else c :: rest

/-- The target in parentheses that a text begins with, and what follows it. -/
def readInlineTarget? : Text → Option (Target × Text)
  | '(' :: t => do
    let (destination, t) ← readDestination? (skipGap t)
    let (title, t) := readTitle (skipGap t)
    match skipGap t with
    | ')' :: rest => some (⟨destination, title⟩, rest)
    | _ => none
  | _ => none

end Parentheses

end NoteLinks.Markdown
