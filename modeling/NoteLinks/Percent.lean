import NoteLinks.Utf8

/-!
# Percent coding

A percent-coded text holds only the unreserved characters `A`–`Z`, `a`–`z`, `0`–`9`, `-`, `_`, `.`
and `~`; every other byte of its UTF-8 form is written as `%` and two hexadecimal digits. Reading
accepts any text: a `%` that no two hexadecimal digits follow is left as it stands.

In the components of a query a `+` stands for a space as well.
-/

namespace NoteLinks.Percent

open Utf8 (Bytes)

/-! ### Hexadecimal digits -/
section Hex

/-- The upper-case hexadecimal digit for a number below sixteen. -/
def hexDigit (n : Nat) : Char := Char.ofNat (if n < 10 then 48 + n else 55 + n)

/-- The value of a byte that is a hexadecimal digit in either case. -/
def hexValue? (b : UInt8) : Option Nat :=
  let n := b.toNat
  if 48 ≤ n ∧ n ≤ 57 then some (n - 48)
  else if 65 ≤ n ∧ n ≤ 70 then some (n - 55)
  else if 97 ≤ n ∧ n ≤ 102 then some (n - 87)
  else none

/-- `%` and the two digits of a byte. -/
def escape (b : UInt8) : Text := ['%', hexDigit (b.toNat / 16), hexDigit (b.toNat % 16)]

end Hex

/-! ### Writing -/
section Encode

/-- The characters that stand for themselves. -/
def isUnreserved (c : Char) : Bool :=
  c.isAlphanum || c == '-' || c == '_' || c == '.' || c == '~'

/-- A byte as an unreserved character or an escape. -/
def encodeByte (b : UInt8) : Text :=
  let c := Char.ofNat b.toNat
  if b < 0x80 && isUnreserved c then [c] else escape b

/-- The percent-coded form of a text. -/
def encode (t : Text) : Text := (Utf8.encode t).flatMap encodeByte

end Encode

/-! ### Reading -/
section Decode

/-- Bytes with the escapes undone; a `%` without two digits stands for itself. -/
def decodeBytes : Bytes → Bytes
  | 0x25 :: a :: b :: rest =>
    match hexValue? a with
    | none => 0x25 :: decodeBytes (a :: b :: rest)
    | some high =>
      match hexValue? b with
      | none => 0x25 :: a :: decodeBytes (b :: rest)
      | some low => UInt8.ofNat (16 * high + low) :: decodeBytes rest
  | b :: rest => b :: decodeBytes rest
  | [] => []

def decode (t : Text) : Text := Utf8.decodeLossy (decodeBytes (Utf8.encode t))

/-- A component of a query with each `+` turned into the space it stands for. -/
def plusToSpace (t : Text) : Text := t.map fun c => if c = '+' then ' ' else c

/-- The text that a component of a query stands for. -/
def decodeComponent (t : Text) : Text := decode (plusToSpace t)

end Decode

/-- The segments of a path, percent-coded and joined by `/`. -/
def encodePath (segments : List Text) : Text := Text.join "/" (segments.map encode)

end NoteLinks.Percent
