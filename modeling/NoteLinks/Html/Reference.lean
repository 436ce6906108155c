import NoteLinks.Html.Entities
import NoteLinks.Html.FurtherNames
import NoteLinks.Text

/-!
# Character references

In HTML a character can be written as a reference: `&name;` for a named character, `&#35;` or
`&#x23;` for any other by its number. Reading undoes the references that mean something and leaves
every other `&` as it stands. Writing replaces only the characters that would end a text or a quoted
value.
-/

namespace NoteLinks.Html

/-! ### Writing -/
section Escape

/-- A character of running text. -/
def escapeTextChar : Char → Text
  | '&' => "&amp;"
  | '<' => "&lt;"
  | '>' => "&gt;"
  | c => [c]

/-- A character of a value between double quotes. -/
def escapeValueChar : Char → Text
  | '"' => "&quot;"
  | c => escapeTextChar c

/-- A text as it is written between tags. -/
def escapeText (t : Text) : Text := t.flatMap escapeTextChar

/-- A text as it is written between double quotes. -/
def escapeValue (t : Text) : Text := t.flatMap escapeValueChar

end Escape

/-! ### Reading -/
section Unescape

/-- The value of a hexadecimal digit. -/
def hexDigit? (c : Char) : Option Nat :=
  let n := c.toNat
  if 48 ≤ n ∧ n ≤ 57 then some (n - 48)
  else if 65 ≤ n ∧ n ≤ 70 then some (n - 55)
  else if 97 ≤ n ∧ n ≤ 102 then some (n - 87)
  else none

/-- The number that one or more digits denote, each with a value below `base`. -/
def readNumber? (base : Nat) (t : Text) : Option Nat :=
  if t = [] then none
  else
    t.foldl
      (fun acc c => acc.bind fun n => (hexDigit? c).bind fun d =>
        if d < base then some (base * n + d) else none)
      (some 0)

/-- The character with a number, unless the number is that of no character or of a control
character other than tab, line feed, form feed and carriage return. -/
def charOfNumber? (n : Nat) : Option Char :=
  if n.isValidChar ∧ (0x20 ≤ n ∨ n = 9 ∨ n = 10 ∨ n = 12 ∨ n = 13) then some (Char.ofNat n)
  else none

/-- The characters among those of a table that a name stands for. -/
def lookUp? {α : Type} (table : List (String × α)) (name : Text) : Option α :=
  (table.find? fun e => e.1.toList == name).map (·.2)

/-- The characters that a name stands for. -/
def named? (name : Text) : Option Text :=
  match lookUp? entities name <|> furtherNames.findSome? (lookUp? · name) with
  | some n => some [Char.ofNat n]
  | none => (lookUp? pairNames name).map fun (a, b) => [Char.ofNat a, Char.ofNat b]

/-- What a reference means; `body` is the text between `&` and `;`. -/
def referenceText? (body : Text) : Option Text :=
  match body with
  | '#' :: 'x' :: t => ((readNumber? 16 t).bind charOfNumber?).map ([·])
  | '#' :: 'X' :: t => ((readNumber? 16 t).bind charOfNumber?).map ([·])
  | '#' :: t => ((readNumber? 10 t).bind charOfNumber?).map ([·])
  | name => named? name

/-- A character that can stand between `&` and `;`. -/
def isReferenceChar (c : Char) : Bool := c.isAlphanum || c == '#'

/-- The reference at the start of the text after an `&`: what it means and what follows it. -/
def reference? (t : Text) : Option (Text × Text) :=
  match t.dropWhile isReferenceChar with
  | ';' :: rest => (referenceText? (t.takeWhile isReferenceChar)).map (·, rest)
  | _ => none

theorem length_dropWhile_le (p : Char → Bool) (t : Text) : (t.dropWhile p).length ≤ t.length := by
  induction t with
  | nil => simp
  | cons c t ih =>
    simp only [List.dropWhile_cons, List.length_cons]
    split
    · omega
    · simp

theorem length_of_reference? {t rest d : Text} (h : reference? t = some (d, rest)) :
    rest.length < t.length := by
  unfold reference? at h
  split at h
  · rename_i r hr
    simp only [Option.map_eq_some_iff, Prod.mk.injEq] at h
    obtain ⟨_, _, _, rfl⟩ := h
    have := length_dropWhile_le isReferenceChar t
    rw [hr] at this
    simp at this
    omega
  · simp at h

/-- A text with its references undone. -/
def unescape : Text → Text
  | [] => []
  | c :: t =>
    if c = '&' then
      match _h : reference? t with
      | some (d, rest) => d ++ unescape rest
      | none => c :: unescape t
    else c :: unescape t
termination_by t => t.length
decreasing_by
  · have := length_of_reference? ‹_›
    simp
    omega
  all_goals simp

end Unescape

end NoteLinks.Html
