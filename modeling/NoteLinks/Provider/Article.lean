import NoteLinks.Text.Blank

/-!
# Encyclopedia articles

The value that names an encyclopedia article is the article's title, optionally with the language
of the encyclopedia and a colon before it, as in `de:Hamburg`. Blanks around the value and around
the title do not count. A line feed has no place in it.
-/

namespace NoteLinks

/-- An article in the encyclopedia of a language. -/
structure Article where
  language : Text
  title : Text
deriving DecidableEq, Repr

namespace Article

/-- A small ASCII letter. -/
def isSmallLetter (c : Char) : Bool := 'a' ≤ c && c ≤ 'z'

/-- Two or three small letters, then possibly a hyphen and more small letters. -/
def isLanguage (t : Text) : Bool :=
  let base := t.takeWhile isSmallLetter
  (base.length == 2 || base.length == 3) &&
    match t.dropWhile isSmallLetter with
    | [] => true
    | c :: rest => c == '-' && rest != [] && rest.all isSmallLetter

/-- The article that a value names; `default` is the language of a value that states none. -/
def read? (default value : Text) : Option Article :=
  let t := Text.trim value
  if '\n' ∈ t then none
  else
    match Text.cutWhere? (· == ':') t with
    | some (language, title) =>
      if isLanguage language then some ⟨language, Text.trim title⟩ else some ⟨default, Text.trim t⟩
    | none => some ⟨default, Text.trim t⟩

end Article

end NoteLinks
