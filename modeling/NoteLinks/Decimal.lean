import NoteLinks.Text

/-!
# Decimal numerals

Numbers are written with the digits `0` to `9` and without leading zeros. Reading is more liberal:
leading zeros and, for whole numbers, one sign are allowed, but a numeral has at least one digit
and nothing else.
-/

namespace NoteLinks.Decimal

/-! ### Natural numbers -/
section Natural

def digit (n : Nat) : Char := Char.ofNat (48 + n)

def write (n : Nat) : Text :=
  if n < 10 then [digit n] else write (n / 10) ++ [digit (n % 10)]

/-- The number whose value is `acc` followed by the digits of `t`. -/
def value (acc : Nat) (t : Text) : Nat := t.foldl (fun n c => 10 * n + (c.toNat - 48)) acc

/-- The number that a text of one or more digits denotes. -/
def read? (t : Text) : Option Nat := if t.isDigits then some (value 0 t) else none

/-- `n` written with at least `width` digits. -/
def writePadded (width n : Nat) : Text :=
  let ds := write n
  List.replicate (width - ds.length) '0' ++ ds

end Natural

/-! ### Whole numbers and bounds

A bounded number is read in two steps: the numeral denotes a whole number of any size, and then
the number must lie within the bounds. -/
section Bounded

def writeInt : Int → Text
  | .ofNat n => write n
  | .negSucc n => '-' :: write (n + 1)

/-- The whole number that digits with at most one sign before them denote. -/
def readInt? : Text → Option Int
  | '-' :: t => (read? t).map fun n => -(n : Int)
  | '+' :: t => (read? t).map Int.ofNat
  | t => (read? t).map Int.ofNat

/-- The number below `2^32` that a text of digits denotes. -/
def readUInt32? (t : Text) : Option UInt32 :=
  (read? t).bind fun n => if n < UInt32.size then some (UInt32.ofNat n) else none

/-- The number of 64 bits that a signed numeral denotes. -/
def readInt64? (t : Text) : Option Int64 :=
  (readInt? t).bind fun n =>
    if Int64.minValue.toInt ≤ n ∧ n ≤ Int64.maxValue.toInt then some (Int64.ofInt n) else none

end Bounded

end NoteLinks.Decimal
