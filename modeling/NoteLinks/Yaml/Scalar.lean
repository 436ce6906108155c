import NoteLinks.Decimal.Binary

/-!
# YAML scalars

A scalar in quotes is text. Plain text is null, a truth value or a number where it has the form of
one, and text otherwise. A numeral of up to 128 bits that does not fit into 64 bits has no meaning
at all; one that is longer still, or a fraction that is too large, is text or a fraction again.
-/

namespace NoteLinks.Yaml

/-! ### Numerals -/
section Numerals

/-- The value of a digit in a base of at most sixteen. -/
def digitValue? (base : Nat) (c : Char) : Option Nat :=
  let n := c.toNat
  let v :=
    if 48 ≤ n ∧ n ≤ 57 then n - 48
    else if 65 ≤ n ∧ n ≤ 70 then n - 55
    else if 97 ≤ n ∧ n ≤ 102 then n - 87
    else 99
  if v < base then some v else none

/-- The number that one or more digits of a base denote. -/
def readBase? (base : Nat) (t : Text) : Option Nat :=
  if t = [] then none
  else t.foldl (fun acc c => acc.bind fun n => (digitValue? base c).map (base * n + ·)) (some 0)

/-- A zero before more digits: such a text is no number. -/
def hasLeadingZero : Text → Bool
  | '0' :: c :: t => (c :: t).all Char.isDigit
  | _ => false

/-- The number of an unsigned numeral, in base ten or after `0x`, `0o` or `0b`. -/
def unsigned? : Text → Option Nat
  | '0' :: 'x' :: t => readBase? 16 t
  | '0' :: 'o' :: t => readBase? 8 t
  | '0' :: 'b' :: t => readBase? 2 t
  | t => if hasLeadingZero t then none else readBase? 10 t

/-- The whole number that a plain text means. -/
def int? : Text → Option Int
  | '-' :: t => (unsigned? t).map fun n => -(n : Int)
  | '+' :: t => (unsigned? t).map Int.ofNat
  | t => (unsigned? t).map Int.ofNat

/-- A whole number that fits into `bits` bits, with or without a sign. -/
def fits (bits : Nat) (n : Int) : Bool :=
  -(Nat.pow 2 (bits - 1) : Int) ≤ n && n < (Nat.pow 2 bits : Int)

/-- The sign of a numeral, and the numeral without it. -/
def splitSign : Text → Bool × Text
  | '-' :: t => (true, t)
  | '+' :: t => (false, t)
  | t => (false, t)

/-- The number of an exponent, which is absent or an `e` with a signed number. -/
def exponent? : Text → Option Int
  | [] => some 0
  | c :: t => if c = 'e' ∨ c = 'E' then Decimal.readInt? t else none

end Numerals

/-! ### Fractions -/
section Fractions

/-- A number with a fraction or an exponent, or one of the values that no numeral denotes. -/
inductive Fraction where
  | finite (value : Binary)
  | infinite (negative : Bool)
  | notNumber
deriving DecidableEq, Repr

/-- The number of digits with a point or an exponent, without a sign. -/
def decimal? (t : Text) : Option Binary := do
  let whole := t.takeWhile Char.isDigit
  let rest := t.dropWhile Char.isDigit
  let (fraction, rest) :=
    match rest with
    | '.' :: more => (more.takeWhile Char.isDigit, more.dropWhile Char.isDigit)
    | _ => ([], rest)
  if hasLeadingZero t ∨ (whole = [] ∧ fraction = []) then none
  else Binary.ofDecimal? (whole ++ fraction) ((← exponent? rest) - fraction.length)

/-- The fraction that a plain text means. -/
def fraction? (t : Text) : Option Fraction :=
  let (negative, u) := splitSign t
  if [".inf", ".Inf", ".INF"].contains u.asString then some (.infinite negative)
  else if [".nan", ".NaN", ".NAN"].contains t.asString then some .notNumber
  else (decimal? u).map fun b => .finite (if negative then b.neg else b)

end Fractions

/-! ### Scalars -/
section Scalars

/-- A value without parts. -/
inductive Scalar where
  | null
  | bool (b : Bool)
  | int (n : Int)
  | fraction (x : Fraction)
  | text (t : Text)
deriving DecidableEq, Repr

def isNull (t : Text) : Bool := ["", "~", "null", "Null", "NULL"].contains t.asString

def bool? (t : Text) : Option Bool :=
  if ["true", "True", "TRUE"].contains t.asString then some true
  else if ["false", "False", "FALSE"].contains t.asString then some false
  else none

/-- What a plain text that is no whole number means. -/
def fractionOrText (t : Text) : Scalar :=
  match fraction? t with
  | some x => .fraction x
  | none => .text t

/-- What a plain text means. -/
def Scalar.ofPlain? (t : Text) : Option Scalar :=
  if isNull t then some .null
  else
    match bool? t with
    | some b => some (.bool b)
    | none =>
      match int? t with
      | some n =>
        if fits 64 n then some (.int n)
        else if fits 128 n then none
        else some (fractionOrText t)
      | none => some (fractionOrText t)

end Scalars

end NoteLinks.Yaml
