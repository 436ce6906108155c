import NoteLinks.Text

/-!
# Blanks

A blank is a character with the Unicode property `White_Space`. Values are trimmed of blanks and
class lists are cut at them. The zero-width space U+200B and the byte order mark U+FEFF do not have
the property.
-/

namespace NoteLinks.Text

/-- The characters with the Unicode property `White_Space`. -/
def isBlank (c : Char) : Bool :=
  let n := c.toNat
  (9 ≤ n && n ≤ 13) || n == 0x20 || n == 0x85 || n == 0xA0 || n == 0x1680 ||
    (0x2000 ≤ n && n ≤ 0x200A) || n == 0x2028 || n == 0x2029 || n == 0x202F || n == 0x205F ||
    n == 0x3000

def trimStart (t : Text) : Text := t.dropWhile isBlank

def trimEnd (t : Text) : Text := (t.reverse.dropWhile isBlank).reverse

/-- `t` without the blanks at both ends. -/
def trim (t : Text) : Text := trimEnd (trimStart t)

/-- A text without a character that is not blank. -/
def isBlankText (t : Text) : Bool := t.all isBlank

/-- The longest pieces of a text that hold no blank. -/
def words (t : Text) : List Text := (splitWhere isBlank t).filter (· != [])

/-- The members of a list, each once, in the order of their first occurrence. -/
def distinct (ts : List Text) : List Text :=
  ts.foldl (fun seen t => if t ∈ seen then seen else seen ++ [t]) []

end NoteLinks.Text
