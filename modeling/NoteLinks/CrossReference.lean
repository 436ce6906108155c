import NoteLinks.Record
import NoteLinks.Text.Blank

/-!
# Cross-references

A cross-reference names a record by `code@identifier@tree`. The code is the letter of a kind of
record or nothing, the identifier consists of ASCII letters and digits, and the tree may be left
out. A blank and the word `dia` at the end ask for the interactive tree of the record too.

Images name a media record by `@identifier@`.
-/

namespace NoteLinks

/-- What a cross-reference asks for. -/
structure CrossReference where
  kind : RecordKind
  xref : Text
  /-- The tree, where it is not that of the page. -/
  tree : Option Text
  diagram : Bool
deriving DecidableEq, Repr

namespace CrossReference

/-- The text before the blank and the word `dia` that end `t`, or all of it; and whether they do.
The word counts in any letter case. -/
def splitDiagram (t : Text) : Text × Bool :=
  -- the word stands at the end, so the characters are met in reverse order
  match t.reverse with
  | a :: i :: d :: b :: rest =>
    if Text.lower [d, i, a] = "dia" && Text.isBlank b then (rest.reverse, true) else (t, false)
  | _ => (t, false)

/-- A text, unless it is empty. -/
def nonEmpty? (t : Text) : Option Text := if t = [] then none else some t

/-- The cross-reference that a value states. -/
def read? (value : Text) : Option CrossReference := do
  let (code, rest) ← Text.cutWhere? (· == '@') value
  let (xref, trailing) ← Text.cutWhere? (· == '@') rest
  let kind ← RecordKind.ofCode? code
  if Text.isIdentifier xref && !trailing.contains '\n' then
    let (tree, diagram) := splitDiagram (Text.trimEnd trailing)
    some ⟨kind, xref, nonEmpty? (Text.trim tree), diagram⟩
  else none

/-- The value that states a cross-reference. -/
def write (c : CrossReference) : Text :=
  c.kind.code?.toList ++ "@" ++ c.xref ++ "@" ++ c.tree.getD [] ++
    if c.diagram then (" dia" : Text) else []

/-- The identifier in a value of the form `@identifier@`. -/
def readMedia? : Text → Option Text
  | '@' :: t =>
    match Text.cutWhere? (· == '@') t with
    | some (xref, []) => if Text.isIdentifier xref then some xref else none
    | _ => none
  | _ => none

end CrossReference

end NoteLinks
