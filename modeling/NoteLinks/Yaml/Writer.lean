import NoteLinks.Text.Invisible
import NoteLinks.Yaml.Value

/-!
# Writing YAML

A document is written on one line, with texts in double quotes, lists in brackets and mappings in
braces. Keys are marked as such, so they can be of any length. What does not show is written as an
escape.
-/

namespace NoteLinks.Yaml

/-- The lower eight hexadecimal digits of a number. -/
def hex8 (n : Nat) : Text :=
  (List.range 8).reverse.map fun i =>
    let d := (n >>> (4 * i)) % 16
    Char.ofNat (if d < 10 then 48 + d else 55 + d)

/-- A character as it stands between double quotes. -/
def writeChar (c : Char) : Text :=
  if c = '"' || c = '\\' then ['\\', c]
  else if Text.isInvisible c then "\\U" ++ hex8 c.toNat
  else [c]

def writeText (t : Text) : Text := "\"" ++ t.flatMap writeChar ++ "\""

/-- A number `m * 2 ^ e` as a decimal with all its digits. -/
def writeBinary (b : Binary) : Text :=
  if 0 ≤ b.exponent then Decimal.writeInt (b.mantissa * (Nat.pow 2 b.exponent.toNat : Nat)) ++ "e0"
  else
    let k := (-b.exponent).toNat
    Decimal.writeInt (b.mantissa * (Nat.pow 5 k : Nat)) ++ "e-" ++ Decimal.write k

def writeFraction : Fraction → Text
  | .finite b => writeBinary b
  | .infinite negative => if negative then "-.inf" else ".inf"
  | .notNumber => ".nan"

/-- A scalar. -/
def writeScalar : Scalar → Text
  | .null => "null"
  | .bool true => "true"
  | .bool false => "false"
  | .int n => Decimal.writeInt n
  | .fraction x => writeFraction x
  | .text t => writeText t

mutual

/-- A value on one line. -/
def writeValue : Value → Text
  | .scalar s => writeScalar s
  | .list items => "[" ++ writeItems items ++ "]"
  | .mapping entries => "\x7b" ++ writeEntries entries ++ "\x7d"

def writeItems : List Value → Text
  | [] => []
  | [v] => writeValue v
  | v :: vs => writeValue v ++ ", " ++ writeItems vs

/-- The entries of a mapping, each with the mark of its key. -/
def writeEntries : List (Value × Value) → Text
  | [] => []
  | [(k, v)] => "? " ++ writeValue k ++ ": " ++ writeValue v
  | (k, v) :: es => "? " ++ writeValue k ++ ": " ++ writeValue v ++ ", " ++ writeEntries es

end

def writeDocument (v : Value) : Text := writeValue v ++ "\n"

end NoteLinks.Yaml
