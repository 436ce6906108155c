import NoteLinks.Decimal

/-!
# Nearest binary fractions

A decimal fraction is kept as the nearest number of the form `m * 2 ^ e` whose `m` has at most 53
bits and whose `e` is at least `-1074`; of two nearest numbers the one with an even `m` is taken.
Two decimals are then the same number exactly when their nearest numbers are equal. Numbers from
`2 ^ 1024` on have no such form.
-/

namespace NoteLinks

/-- The number `mantissa * 2 ^ exponent`. The mantissa is odd, or zero with the exponent zero, so
each number is stated in one way. -/
structure Binary where
  mantissa : Int
  exponent : Int
deriving DecidableEq, Repr

namespace Binary

/-- The greatest number of bits of a mantissa. -/
def precision : Nat := 53

def minExponent : Int := -1074

/-- The exponent from which on powers of two are too large. -/
def limitExponent : Int := 1024

/-- The number `m * 2 ^ e`, where at most `fuel` factors of two are taken out of `m`. -/
def reduced : (fuel m : Nat) → (e : Int) → Binary
  | 0, m, e => ⟨m, e⟩
  | fuel + 1, m, e =>
    if m = 0 then ⟨0, 0⟩ else if m % 2 = 0 then reduced fuel (m / 2) (e + 1) else ⟨m, e⟩

/-- The whole number next to `num / den`; halves go to the even neighbour. -/
def roundDiv (num den : Nat) : Nat :=
  let q := num / den
  let twice := 2 * (num % den)
  if twice < den ∨ (twice = den ∧ q % 2 = 0) then q else q + 1

/-- The numerator and the denominator of `num / den / 2 ^ e`. -/
def scaled (num den : Nat) (e : Int) : Nat × Nat :=
  if 0 ≤ e then (num, den * Nat.pow 2 e.toNat) else (num * Nat.pow 2 (-e).toNat, den)

/-- The number nearest to `num / den`. -/
def ofRatio? (num den : Nat) : Option Binary :=
  let guess := max ((num.log2 : Int) - den.log2 - (precision - 1)) minExponent
  let (n, d) := scaled num den guess
  let e := if n / d < Nat.pow 2 (precision - 1) then max (guess - 1) minExponent else guess
  let (n, d) := scaled num den e
  let m := roundDiv n d
  if limitExponent ≤ e + m.log2 then none else some (reduced (precision + 1) m e)

/-- Decimals with more digits than this before the point are too large, and with more zeros than
this after it they are nearest to zero. -/
def decimalLimit : Int := 400

/-- The number nearest to `digits * 10 ^ e`, where `digits` is the number that a text denotes. -/
def ofDecimal? (digits : Text) (e : Int) : Option Binary :=
  let ds := digits.dropWhile (· == '0')
  let size : Int := ds.length + e
  let n := Decimal.value 0 ds
  if ds = [] ∨ size < -decimalLimit then some ⟨0, 0⟩
  else if decimalLimit < size then none
  else if 0 ≤ e then ofRatio? (n * Nat.pow 10 e.toNat) 1
  else ofRatio? n (Nat.pow 10 (-e).toNat)

def neg (b : Binary) : Binary := { b with mantissa := -b.mantissa }

end Binary

end NoteLinks
