import NoteLinks.Html.Reference
import NoteLinks.Text.Punctuation

/-!
# Escapes in Markdown

A backslash before ASCII punctuation takes the meaning from it, and a character can be written as a
reference. A numeric reference that means no character stands for the replacement character; a name
that means none is left as it is.
-/

namespace NoteLinks.Markdown

/-! ### References -/
section References

/-- The character with a number, or the replacement character. -/
def numberedChar (n : Nat) : Char :=
  if n ≠ 0 ∧ n.isValidChar then Char.ofNat n else '\uFFFD'

/-- The number that at most `limit` digits denote, each below `base`. -/
def boundedNumber? (base limit : Nat) (digits : Text) : Option Nat :=
  if digits.length ≤ limit then Html.readNumber? base digits else none

/-- What a reference means whose text between `&` and `;` is given. -/
def referenceText? : Text → Option Text
  | '#' :: 'x' :: t => (boundedNumber? 16 6 t).map fun n => [numberedChar n]
  | '#' :: 'X' :: t => (boundedNumber? 16 6 t).map fun n => [numberedChar n]
  | '#' :: t => (boundedNumber? 10 7 t).map fun n => [numberedChar n]
  | name => Html.named? name

/-- The reference after an `&`: what it means and what follows it. -/
def readCharacters? (t : Text) : Option (Text × Text) :=
  match t.dropWhile Html.isReferenceChar with
  | ';' :: rest => (referenceText? (t.takeWhile Html.isReferenceChar)).map (·, rest)
  | _ => none

theorem length_of_readCharacters? {t rest d : Text} (h : readCharacters? t = some (d, rest)) :
    rest.length < t.length := by
  unfold readCharacters? at h
  split at h
  · rename_i r hr
    simp only [Option.map_eq_some_iff, Prod.mk.injEq] at h
    obtain ⟨_, _, _, rfl⟩ := h
    have := Html.length_dropWhile_le Html.isReferenceChar t
    rw [hr] at this
    simp at this
    omega
  · simp at h

end References

/-- A text with its escapes and references undone and without carriage returns. -/
def unescape : Text → Text
  | [] => []
  | '\r' :: t => unescape t
  | '\\' :: p :: t =>
    if Text.isAsciiPunctuation p then p :: unescape t else '\\' :: unescape (p :: t)
  | '&' :: t =>
    match _h : readCharacters? t with
    | some (d, rest) => d ++ unescape rest
    | none => '&' :: unescape t
  | c :: t => c :: unescape t
termination_by t => t.length
decreasing_by
  · simp
  · simp only [List.length_cons]; omega
  · simp
  · have := length_of_readCharacters? ‹_›
    simp only [List.length_cons]; omega
  all_goals simp

end NoteLinks.Markdown
