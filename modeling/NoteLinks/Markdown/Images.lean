import NoteLinks.Markdown.Event

/-!
# Annotated images in Markdown

An image is a span of events. The outermost image spans are rendered one by one, with the text
inside them as the alternative text; a span whose image has no annotation stays as it is, and so
does everything outside the spans.
-/

namespace NoteLinks.Markdown

/-! ### Image spans -/
section Images

/-- An image span that has not ended yet. -/
structure OpenImage where
  destination : Text
  title : Text
  /-- The text met so far. -/
  alt : Text
  /-- The events met so far. -/
  inner : List Event
  /-- The number of image spans inside it that have not ended yet. -/
  depth : Nat
deriving DecidableEq, Repr

namespace OpenImage

def opening (i : OpenImage) : Event := .start (.image i.destination i.title)

def push (i : OpenImage) (e : Event) : OpenImage := { i with inner := i.inner ++ [e] }

/-- The span with more text. -/
def say (i : OpenImage) (t : Text) : OpenImage := { i with alt := i.alt ++ t }

/-- The span after an event that does not end it. -/
def extend (i : OpenImage) (e : Event) : OpenImage :=
  match e with
  | .stop .image => { i.push e with depth := i.depth - 1 }
  | .start (.image _ _) => { i.push e with depth := i.depth + 1 }
  | .text t => (i.push e).say t
  | .code t => (i.push e).say t
  | .softBreak => (i.push e).say " "
  | .hardBreak => (i.push e).say " "
  | _ => i.push e

/-- The events that take the place of a span that has ended. -/
def finish (render : Text → Text → Option Text → Text) (i : OpenImage) : List Event :=
  match render i.destination i.alt (if i.title = [] then none else some i.title) with
  | [] => i.opening :: i.inner ++ [.stop .image]
  | html => [.inlineHtml html]

end OpenImage

/-- Events with their image spans rendered; `pending` is the span that has not ended yet. -/
def resolveFrom (render : Text → Text → Option Text → Text) :
    (pending : Option OpenImage) → List Event → List Event
  | none, [] => []
  | some i, [] => i.opening :: i.inner
  | none, e :: es =>
    match e with
    | .start (.image destination title) =>
      resolveFrom render (some ⟨destination, title, [], [], 0⟩) es
    | _ => e :: resolveFrom render none es
  | some i, e :: es =>
    if e = .stop .image ∧ i.depth = 0 then i.finish render ++ resolveFrom render none es
    else resolveFrom render (some (i.extend e)) es

/-- Events with their image spans rendered. -/
def resolveImages (render : Text → Text → Option Text → Text) (es : List Event) : List Event :=
  resolveFrom render none es

end Images

end NoteLinks.Markdown
