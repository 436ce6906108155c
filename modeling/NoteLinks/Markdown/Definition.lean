import NoteLinks.Markdown.Inline
import NoteLinks.Markdown.Table

/-!
# Definitions of targets

At the start of a paragraph a label in brackets and a colon define a target for the links that refer
to the label. Label, destination and title may stand on lines of their own, as long as these lines
continue the paragraph.
-/

namespace NoteLinks.Markdown

/-! ### Between the parts -/
section Gaps

/-- The text of a line within the containers, if the line can continue a definition; `allowUnder`
says that a line like that under a heading can, if not all containers are continued. -/
def continueDefinition? (cs : List Container) (allowUnder : Bool) (t : Text) : Option Text :=
  let (inPlace, p) := Container.enterLine cs t
  let (n, q) := p.skip 4
  let under := (underline? q.rest).isSome && (inPlace || !allowUnder)
  if n < 4 ∧ (interruptsParagraph cs inPlace q.rest ∨ under) then none else some q.rest

/-- The text without blanks at its start, among them at most one line break; and whether there was
one. -/
def definitionGap? (cs : List Container) : (fuel : Nat) → (broken : Bool) → Text →
    Option (Bool × Text)
  | 0, _, _ => none
  | fuel + 1, broken, t =>
    let u := skipBlanks t
    match afterBreak? u with
    | none => some (broken, u)
    | some below =>
      if broken then none
      else
        match continueDefinition? cs false below with
        | none => none
        | some v => definitionGap? cs fuel true v

end Gaps

/-! ### Titles -/
section Titles

/-- The rest of the title of a definition, up to the character that closes it, and what follows. It
holds no blank line. -/
def definedTitleRest? (close : Char) : Text → Option (Text × Text)
  | [] => none
  | '\\' :: p :: t =>
    (definedTitleRest? close t).map fun (title, rest) => ('\\' :: p :: title, rest)
  | c :: t =>
    if c = close then some ([], t)
    else if c = '\n' ∧ (skipBlanks t).head?.all isBreak then none
    else (definedTitleRest? close t).map fun (title, rest) => (c :: title, rest)
termination_by t => t.length

/-- The title of a definition that a text begins with, and what follows it. -/
def readDefinedTitle? (t : Text) : Option (Text × Text) :=
  match t with
  | [] => none
  | c :: u =>
    ((titleEnd? c).bind fun close => definedTitleRest? close u).map fun (title, rest) =>
      (unescape title, rest)

end Titles

/-! ### Definitions -/
section Definitions

/-- The label of a definition that a text begins with, and what follows its colon. -/
def readDefinedLabel? (cs : List Container) (t : Text) : Option (Text × Text) :=
  match readLabel? (continueDefinition? cs true) t with
  | some (label, ':' :: rest) => some (foldLabel label, rest)
  | _ => none

/-- The definition that a text begins with, and what follows its last part. A title is set apart
from the destination by blanks, and nothing follows it on its line. -/
def readDefinition? (cs : List Container) (t : Text) : Option (Definition × Text) := do
  let (label, t) ← readDefinedLabel? cs t
  let (_, start) ← definitionGap? cs 3 false t
  let (destination, behind) ← readDestination? start
  let untitled := (⟨label, destination, []⟩, behind)
  if behind.length = start.length then none
  else
    match definitionGap? cs 3 false behind with
    | none => some untitled
    | some (broken, u) =>
      if u.length = behind.length then none
      else
        match readDefinedTitle? u with
        | some (title, rest) =>
          if startsBlank rest then some (⟨label, destination, title⟩, rest)
          else if broken then some untitled
          else none
        | none => if broken then some untitled else none

/-- The definitions that the text at a place begins with, and the place after them, unless the lines
after them belong to no paragraph: then the text from there on. Each definition takes a character,
so the length of the text is enough for `fuel`. -/
def takeDefinitions (cs : List Container) : (fuel : Nat) → Place →
    List Definition × (Place ⊕ Text)
  | 0, p => ([], .inl p)
  | fuel + 1, p =>
    match readDefinition? cs p.rest with
    | none => ([], .inl p)
    | some (d, behind) =>
      match afterBlankLine? behind with
      | none => ([d], .inr behind)
      | some below =>
        let (inPlace, q) := Container.enterLine cs below
        let (n, start) := q.skip 4
        if n < 4 ∧ interruptsParagraph cs inPlace start.rest then ([d], .inr below)
        else
          let (ds, after) := takeDefinitions cs fuel start.skipAll
          (d :: ds, after)

end Definitions

end NoteLinks.Markdown
