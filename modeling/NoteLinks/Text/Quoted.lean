import NoteLinks.Text.Invisible

/-!
# Quoted texts

A text is quoted where a message shows what was read: between double quotes, with a backslash before
a quote or a backslash, and with every character that does not show spelled out.
-/

namespace NoteLinks.Text

/-- The small hexadecimal digit for a number below sixteen. -/
def smallHexDigit (n : Nat) : Char := Char.ofNat (if n < 10 then 48 + n else 87 + n)

/-- The hexadecimal numeral of a number. -/
def writeHex (n : Nat) : Text :=
  if n < 16 then [smallHexDigit n] else writeHex (n / 16) ++ [smallHexDigit (n % 16)]

/-- A character as it stands between quotes. -/
def quoteChar (c : Char) : Text :=
  if c = '"' then "\\\""
  else if c = '\\' then "\\\\"
  else if c = '\t' then "\\t"
  else if c = '\n' then "\\n"
  else if c = '\r' then "\\r"
  else if c.toNat = 0 then "\\0"
  else if isInvisible c then "\\u\x7b" ++ writeHex c.toNat ++ "\x7d"
  else [c]

def quote (t : Text) : Text := "\"" ++ t.flatMap quoteChar ++ "\""

end NoteLinks.Text
