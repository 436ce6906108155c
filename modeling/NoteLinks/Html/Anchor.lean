import NoteLinks.Html.Attribute

/-!
# Anchors

An anchor is an `<a>` tag, its content and the first `</a>` after it. A tag ends at the first `>`
outside quotes, so a quoted value may hold any text but its own quote. Anchors do not nest: what
looks like an opening tag inside the content belongs to the content.

`pieces` cuts a document into its anchors and the characters between them, from left to right.
-/

namespace NoteLinks.Html

/-- An anchor as it is written. -/
structure Anchor where
  /-- The opening `<a` in either letter case. -/
  opening : Text
  /-- The text of the tag between the element's name and the `>`. -/
  attributes : Text
  /-- The text between the tags. -/
  content : Text
  /-- The closing tag. -/
  closing : Text
deriving DecidableEq, Repr

def Anchor.raw (a : Anchor) : Text := a.opening ++ a.attributes ++ ">" ++ a.content ++ a.closing

/-! ### Tags -/
section Tags

/-- The text up to the first `>` outside quotes and the text after it; `quote` is the quote that is
open at the start. -/
def tagRest? : (quote : Option Char) → Text → Option (Text × Text)
  | _, [] => none
  | none, c :: t =>
    if c = '>' then some ([], t)
    else
      let quote := if c = '"' ∨ c = '\'' then some c else none
      (tagRest? quote t).map fun (a, b) => (c :: a, b)
  | some q, c :: t =>
    (tagRest? (if c = q then none else some q) t).map fun (a, b) => (c :: a, b)

/-- The letter that names the element, in either case. -/
def isAnchorLetter (c : Char) : Bool := c == 'a' || c == 'A'

/-- The opening tag at the start of a text, as its opening and its attributes, and the text after
the tag. The name of the element ends at a blank or at the `>`. -/
def openTag? : Text → Option (Text × Text × Text)
  | '<' :: c :: d :: t =>
    if isAnchorLetter c && (Text.isBlank d || d == '>') then
      (tagRest? none (d :: t)).map fun (a, b) => (['<', c], a, b)
    else none
  | _ => none

/-- The closing tag at the start of a text and the text after it. -/
def closeTag? : Text → Option (Text × Text)
  | '<' :: '/' :: c :: t =>
    if isAnchorLetter c then
      match t.dropWhile Text.isBlank with
      | '>' :: rest => some (['<', '/', c] ++ t.takeWhile Text.isBlank ++ ">", rest)
      | _ => none
    else none
  | _ => none

/-- The text before the first closing tag, the tag and the text after it. -/
def content? : Text → Option (Text × Text × Text)
  | [] => none
  | c :: t =>
    match closeTag? (c :: t) with
    | some (closing, rest) => some ([], closing, rest)
    | none => (content? t).map fun (a, b) => (c :: a, b)

/-- The anchor at the start of a text and the text after it. -/
def anchor? (t : Text) : Option (Anchor × Text) := do
  let (opening, attributes, t) ← openTag? t
  let (content, closing, rest) ← content? t
  some (⟨opening, attributes, content, closing⟩, rest)

theorem length_of_tagRest? {q : Option Char} {t a b : Text} (h : tagRest? q t = some (a, b)) :
    b.length < t.length := by
  induction t generalizing q a with
  | nil => simp [tagRest?] at h
  | cons c t ih =>
    cases q <;> simp only [tagRest?] at h
    · split at h
      · simp only [Option.some.injEq, Prod.mk.injEq] at h
        simp [h.2]
      · simp only [Option.map_eq_some_iff, Prod.mk.injEq, Prod.exists] at h
        obtain ⟨_, _, h', _, rfl⟩ := h
        have := ih h'
        simp; omega
    · simp only [Option.map_eq_some_iff, Prod.mk.injEq, Prod.exists] at h
      obtain ⟨_, _, h', _, rfl⟩ := h
      have := ih h'
      simp; omega

theorem length_of_openTag? {t a b c : Text} (h : openTag? t = some (a, b, c)) :
    c.length < t.length := by
  unfold openTag? at h
  split at h
  · split at h
    · simp only [Option.map_eq_some_iff, Prod.mk.injEq, Prod.exists] at h
      obtain ⟨_, _, h', _, _, rfl⟩ := h
      have := length_of_tagRest? h'
      simp at this ⊢; omega
    · simp at h
  · simp at h

theorem length_of_closeTag? {t a b : Text} (h : closeTag? t = some (a, b)) :
    b.length < t.length := by
  unfold closeTag? at h
  split at h
  · rename_i c t
    split at h
    · have ht := length_dropWhile_le Text.isBlank t
      split at h
      · rename_i hr
        rw [hr] at ht
        simp only [Option.some.injEq, Prod.mk.injEq] at h
        rw [← h.2]
        simp at ht ⊢; omega
      · simp at h
    · simp at h
  · simp at h

theorem length_of_content? {t a b c : Text} (h : content? t = some (a, b, c)) :
    c.length < t.length := by
  induction t generalizing a with
  | nil => simp [content?] at h
  | cons d t ih =>
    simp only [content?] at h
    split at h
    · rename_i hc
      have := length_of_closeTag? hc
      simp only [Option.some.injEq, Prod.mk.injEq] at h
      obtain ⟨_, rfl, rfl⟩ := h
      exact this
    · simp only [Option.map_eq_some_iff, Prod.mk.injEq, Prod.exists] at h
      obtain ⟨_, _, _, h', _, rfl, rfl⟩ := h
      have := ih h'
      simp; omega

theorem length_of_anchor? {t rest : Text} {a : Anchor} (h : anchor? t = some (a, rest)) :
    rest.length < t.length := by
  unfold anchor? at h
  simp only [Option.bind_eq_bind, Option.bind_eq_some_iff, Prod.exists, Option.some.injEq,
    Prod.mk.injEq] at h
  obtain ⟨_, _, _, h₁, _, _, _, h₂, _, rfl⟩ := h
  have := length_of_openTag? h₁
  have := length_of_content? h₂
  omega

end Tags

/-! ### Documents -/
section Documents

/-- A piece of a document. -/
inductive Piece where
  | char (c : Char)
  | anchor (a : Anchor)
deriving DecidableEq, Repr

def Piece.raw : Piece → Text
  | .char c => [c]
  | .anchor a => a.raw

/-- The anchors of a document and the characters between them. -/
def pieces : Text → List Piece
  | [] => []
  | c :: t =>
    match _h : anchor? (c :: t) with
    | some (a, rest) => .anchor a :: pieces rest
    | none => .char c :: pieces t
termination_by t => t.length
decreasing_by
  · exact length_of_anchor? ‹_›
  · simp

end Documents

end NoteLinks.Html
