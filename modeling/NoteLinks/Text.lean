/-!
# Text

Everything this library reads or writes is text: a list of characters. Scanning is then
recursion on the list, and a law about a scanner is an induction on it.
-/

namespace NoteLinks

/-- A text is the list of its characters. -/
abbrev Text := List Char

/-- String literals are texts. -/
instance : Coe String Text := ⟨String.toList⟩

namespace Text

/-- The string with the characters of `t`. -/
def asString (t : Text) : String := String.ofList t

/-! ### Letter case

Names of elements, attributes, columns and schemes are compared without regard to the case of the
letters `A` to `Z`. No other letter has a case here. -/
section Case

/-- `t` with the letters `A` to `Z` made small. -/
def lower (t : Text) : Text := t.map Char.toLower

/-- Two texts that differ at most in the case of their ASCII letters. -/
def sameLetters (s t : Text) : Bool := s.lower == t.lower

/-- `t` begins with `mark`, whatever the case of the ASCII letters. -/
def startsWithLetters (t mark : Text) : Bool := mark.lower.isPrefixOf t.lower

end Case

/-! ### Classes of characters -/
section Classes

/-- An ASCII letter or digit. -/
def isWordChar (c : Char) : Bool := c.isAlphanum

/-- A text of one or more ASCII digits. -/
def isDigits (t : Text) : Bool := t != [] && t.all Char.isDigit

/-- A text of one or more ASCII letters and digits, as record identifiers are. -/
def isIdentifier (t : Text) : Bool := t != [] && t.all isWordChar

end Classes

/-! ### Cutting at characters

A text is cut at every character of a class; the pieces between the cuts are kept, also the empty
ones, so there is always one piece more than there are cuts. -/
section Split

/-- The pieces of a text between the characters of a class. -/
def splitWhere (p : Char → Bool) : Text → List Text
  | [] => [[]]
  | c :: t =>
    if p c then [] :: splitWhere p t
    else
      match splitWhere p t with
      | [] => [[c]]
      | piece :: pieces => (c :: piece) :: pieces

/-- The pieces of a text between the occurrences of one character. -/
def splitAt (c : Char) (t : Text) : List Text := splitWhere (· == c) t

/-- The part before the first character of a class and the part after it. -/
def cutWhere? (p : Char → Bool) : Text → Option (Text × Text)
  | [] => none
  | c :: t => if p c then some ([], t) else (cutWhere? p t).map fun (a, b) => (c :: a, b)

/-- Texts written one after the other with `sep` between them. -/
def join (sep : Text) (ts : List Text) : Text := List.intercalate sep ts

end Split

/-! ### Cutting at a mark

A mark is a text of one or more characters, such as the `#@` that opens an annotation or the `%s`
that stands for an argument. Occurrences are taken from left to right and do not overlap. -/
section Mark

/-- What follows `mark` in a text that begins with it. -/
def after? : Text → Text → Option Text
  | [], t => some t
  | _ :: _, [] => none
  | m :: ms, c :: t => if m = c then after? ms t else none

/-- The text before the first occurrence of `mark` and the text after it. -/
def cut? (mark : Text) : Text → Option (Text × Text)
  | [] => (after? mark []).map ([], ·)
  | c :: t =>
    match after? mark (c :: t) with
    | some rest => some ([], rest)
    | none => (cut? mark t).map fun (a, b) => (c :: a, b)

theorem length_of_after? {mark t rest : Text} (h : after? mark t = some rest) :
    t.length = mark.length + rest.length := by
  induction mark generalizing t with
  | nil => simp_all [after?]
  | cons m ms ih =>
    cases t with
    | nil => simp [after?] at h
    | cons c t =>
      simp only [after?] at h
      split at h
      · simp [ih h]; omega
      · simp at h

theorem length_of_cut? {mark t a b : Text} (h : cut? mark t = some (a, b)) :
    t.length = a.length + mark.length + b.length := by
  induction t generalizing a with
  | nil =>
    simp only [cut?, Option.map_eq_some_iff, Prod.mk.injEq] at h
    obtain ⟨rest, hr, rfl, rfl⟩ := h
    simpa using length_of_after? hr
  | cons c t ih =>
    simp only [cut?] at h
    split at h
    · rename_i rest hr
      simp only [Option.some.injEq, Prod.mk.injEq] at h
      obtain ⟨rfl, rfl⟩ := h
      simpa using length_of_after? hr
    · simp only [Option.map_eq_some_iff, Prod.mk.injEq, Prod.exists] at h
      obtain ⟨a', b', h', rfl, rfl⟩ := h
      simp [ih h']; omega

/-- The mark `m :: ms` occurs in the text. -/
def hasMark (mark t : Text) : Bool := (cut? mark t).isSome

/-- The pieces of a text between the occurrences of the mark `m :: ms`. -/
def pieces (m : Char) (ms : Text) (t : Text) : List Text :=
  match _h : cut? (m :: ms) t with
  | none => [t]
  | some (a, b) => a :: pieces m ms b
termination_by t.length
decreasing_by
  have := length_of_cut? ‹_›
  simp at this
  omega

/-- `t` with every occurrence of `mark` replaced by `new`; the empty mark occurs nowhere. -/
def replaceAll (mark new t : Text) : Text :=
  match mark with
  | [] => t
  | m :: ms => join new (pieces m ms t)

end Mark

end Text

end NoteLinks
