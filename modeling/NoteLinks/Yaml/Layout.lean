import NoteLinks.Yaml.Gap

/-!
# Layout of a YAML document

A document is a row of tokens: scalars and the marks around them. Marks for lists and mappings that
are written by indentation do not stand in the text; they follow from the columns where tokens
begin. Nor is a key marked: that a token was one is seen at the colon after it. The layout keeps
what is needed for both, the columns of the open lists and mappings and the place of the last token
that may be a key.
-/

namespace NoteLinks.Yaml

/-! ### Tokens -/
section Tokens

/-- A part of a document. -/
inductive Token where
  /-- The mark `---` before a document. -/
  | documentStart
  /-- The mark `...` after a document. -/
  | documentEnd
  /-- A list begins whose items stand on lines of their own. -/
  | listStart
  /-- A mapping begins whose entries stand on lines of their own. -/
  | mappingStart
  /-- A list or mapping on lines of its own ends. -/
  | blockEnd
  | openBracket
  | closeBracket
  | openBrace
  | closeBrace
  | comma
  /-- The dash before an item. -/
  | item
  /-- What follows is a key. -/
  | key
  /-- The colon before a value. -/
  | value
  | plain (t : Text)
  | quoted (t : Text)
deriving DecidableEq, Repr

end Tokens

/-! ### Places -/
section Places

/-- A place in a document. -/
structure Place where
  /-- The number of characters before it. -/
  index : Nat
  /-- The number of lines before it. -/
  line : Nat
  /-- The number of characters before it on its line. -/
  column : Nat
deriving DecidableEq, Repr

namespace Place

/-- The place at the start. -/
def start : Place := ⟨0, 0, 0⟩

/-- The place after a character. -/
def step (p : Place) (c : Char) : Place :=
  if isBreak c then ⟨p.index + 1, p.line + 1, 0⟩ else ⟨p.index + 1, p.line, p.column + 1⟩

end Place

/-- A token that is a key if a colon follows. -/
structure Candidate where
  /-- The number of tokens before it. -/
  position : Nat
  place : Place
  /-- It stands where only a key can stand. -/
  isRequired : Bool
deriving DecidableEq, Repr

/-- The greatest distance between the start of a key and the colon after it. -/
def maxKeyLength : Nat := 1024

/-- A colon at a place can make the candidate a key. -/
def Candidate.reaches (k : Candidate) (p : Place) : Bool :=
  k.place.line == p.line && p.index ≤ k.place.index + maxKeyLength

end Places

/-! ### Layout -/
section Layouts

/-- What has been read of a document. -/
structure Layout where
  /-- The text that has not been read. -/
  ahead : Text
  place : Place
  /-- The tokens, the last one first. -/
  tokens : List Token
  /-- The columns of the open lists and mappings on lines of their own, the innermost one first. -/
  indents : List Nat
  /-- The last token that may be a key, outside and inside each open bracket, the innermost one
  first. -/
  candidates : List (Option Candidate)
  /-- A key can stand here. -/
  mayBeKey : Bool
deriving Repr

namespace Layout

/-- The layout at the start of a document. -/
def start (t : Text) : Layout := ⟨t, .start, [], [], [none], true⟩

def inFlow (s : Layout) : Bool := 1 < s.candidates.length

/-- The least column that a part of the innermost list or mapping can have. -/
def least (s : Layout) : Nat :=
  match s.indents with
  | [] => 0
  | n :: _ => n + 1

/-- The layout after the text up to `rest`, which what is ahead ends with. -/
def advance (s : Layout) (rest : Text) : Layout :=
  let read := s.ahead.take (s.ahead.length - rest.length)
  { s with ahead := rest, place := read.foldl Place.step s.place }

/-- The layout after `n` more characters. -/
def skip (n : Nat) (s : Layout) : Layout := s.advance (s.ahead.drop n)

/-- The layout with one more token. -/
def add (k : Token) (s : Layout) : Layout := { s with tokens := k :: s.tokens }

/-- The layout with tokens put in after the first `position` of them. -/
def addAt (position : Nat) (ks : List Token) (s : Layout) : Layout :=
  let n := s.tokens.length - position
  { s with tokens := s.tokens.take n ++ ks.reverse ++ s.tokens.drop n }

/-! #### Keys -/

/-- The layout where a key can stand next, or not. -/
def allowKey (mayBeKey : Bool) (s : Layout) : Layout := { s with mayBeKey := mayBeKey }

/-- The layout without the innermost candidate; it must not have been a required one. -/
def dropCandidate? (s : Layout) : Option Layout :=
  match s.candidates with
  | [] => some s
  | k :: ks => if k.any (·.isRequired) then none else some { s with candidates := none :: ks }

/-- The layout with the next token as the innermost candidate, if a key can stand here. -/
def saveCandidate? (s : Layout) : Option Layout :=
  if s.mayBeKey then do
    let isRequired := !s.inFlow && s.indents.head? == some s.place.column
    let s ← s.dropCandidate?
    some { s with candidates := some ⟨s.tokens.length, s.place, isRequired⟩ :: s.candidates.tail }
  else some s

/-- The layout without the candidates that are too far away; none of them must be required. -/
def dropDistant? (s : Layout) : Option Layout :=
  let isNear (k : Candidate) : Bool := k.reaches s.place
  if s.candidates.any fun k => k.any fun k => k.isRequired && !isNear k then none
  else some { s with candidates := s.candidates.map (·.filter isNear) }

/-! #### Indentation -/

/-- The layout where the lists and mappings are closed that do not reach to a column. -/
def close (column : Nat) (s : Layout) : Layout :=
  if s.inFlow then s
  else
    let n := (s.indents.takeWhile (column < ·)).length
    { s with indents := s.indents.drop n, tokens := List.replicate n .blockEnd ++ s.tokens }

/-- The layout where all lists and mappings are closed. -/
def closeAll (s : Layout) : Layout :=
  if s.inFlow then s
  else { s with indents := [], tokens := List.replicate s.indents.length .blockEnd ++ s.tokens }

/-- The layout where a list or mapping that begins with `k` is open at a column. It is put in after
the first `position` tokens, unless one was open there. -/
def openAt (column position : Nat) (k : Token) (s : Layout) : Layout :=
  if s.inFlow || column < s.least then s
  else { (s.addAt position [k]) with indents := column :: s.indents }

/-- The layout where a list or mapping that begins with `k` is open here. -/
def openHere (k : Token) (s : Layout) : Layout := s.openAt s.place.column s.tokens.length k

end Layout

end Layouts

end NoteLinks.Yaml
