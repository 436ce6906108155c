import NoteLinks.Text

/-!
# Autolinks

An address in angle brackets is a link to itself: a scheme, a colon and what follows without blanks,
or an address of electronic mail. The functions read from behind the `<` and return the address and
what follows the `>`.
-/

namespace NoteLinks.Markdown

/-- A character of a scheme after its first letter. -/
def isSchemeChar (c : Char) : Bool := c.isAlphanum || c == '+' || c == '.' || c == '-'

/-- A character of an address after its scheme. -/
def isAddressChar (c : Char) : Bool := 0x20 < c.toNat && c != '<' && c != '>'

/-- The address with a scheme that a text begins with. -/
def readAddress? (t : Text) : Option (Text × Text) :=
  let scheme := t.takeWhile isSchemeChar
  match scheme, t.dropWhile isSchemeChar with
  | first :: _, ':' :: u =>
    if first.isAlpha ∧ 2 ≤ scheme.length ∧ scheme.length ≤ 32 then
      match u.dropWhile isAddressChar with
      | '>' :: rest => some (scheme ++ ':' :: u.takeWhile isAddressChar, rest)
      | _ => none
    else none
  | _, _ => none

/-- A character of a mailbox. -/
def isMailboxChar (c : Char) : Bool :=
  c.isAlphanum ||
    ['.', '!', '#', '$', '%', '&', '\'', '*', '+', '/', '=', '?', '^', '_', '\x60', '\x7b', '|',
      '\x7d', '~', '-'].contains c

/-- A part of the name of a host: letters, digits and hyphens, but no hyphen at either end. -/
def isHostLabel (t : Text) : Bool :=
  t != [] && t.length ≤ 63 && t.all (fun c => c.isAlphanum || c == '-') &&
    t.head? != some '-' && t.getLast? != some '-'

/-- The mail address that a text begins with. -/
def readMailAddress? (t : Text) : Option (Text × Text) :=
  let mailbox := t.takeWhile isMailboxChar
  match t.dropWhile isMailboxChar with
  | '@' :: u =>
    let host := u.takeWhile fun c => c.isAlphanum || c == '-' || c == '.'
    match u.dropWhile fun c => c.isAlphanum || c == '-' || c == '.' with
    | '>' :: rest =>
      if mailbox ≠ [] ∧ (Text.splitAt '.' host).all isHostLabel then
        some (mailbox ++ '@' :: host, rest)
      else none
    | _ => none
  | _ => none

/-- The destination and the text of the autolink that follows, and what comes after it. -/
def readAutolink? (t : Text) : Option ((Text × Text) × Text) :=
  match readAddress? t with
  | some (address, rest) => some ((address, address), rest)
  | none => (readMailAddress? t).map fun (address, rest) => (("mailto:" ++ address, address), rest)

end NoteLinks.Markdown
