import NoteLinks.Decimal
import NoteLinks.Text.Blank

/-!
# Timestamps

A timestamp is a day of the Gregorian calendar and a time of day, to the second. It is written
`2024-05-01 12:00:00`. Reading allows a `T` between the day and the time, fewer digits than the
written form has, and blanks before the numbers.
-/

namespace NoteLinks

/-- A day and a time of day. -/
structure Timestamp where
  year : Int
  month : Nat
  day : Nat
  hour : Nat
  minute : Nat
  second : Nat
deriving DecidableEq, Repr

namespace Timestamp

/-! ### The calendar -/
section Calendar

def isLeapYear (y : Int) : Bool := y % 4 == 0 && (y % 100 != 0 || y % 400 == 0)

/-- The number of days of a month, and zero for no month. -/
def daysIn (year : Int) (month : Nat) : Nat :=
  if month = 2 then if isLeapYear year then 29 else 28
  else if month = 4 ∨ month = 6 ∨ month = 9 ∨ month = 11 then 30
  else if 1 ≤ month ∧ month ≤ 12 then 31
  else 0

/-- The day exists and the time is one of a day; a minute may have a leap second. -/
def isValid (t : Timestamp) : Bool :=
  -262143 ≤ t.year && t.year ≤ 262142 && 1 ≤ t.day && t.day ≤ daysIn t.year t.month &&
    t.hour < 24 && t.minute < 60 && t.second ≤ 60

end Calendar

/-! ### Writing -/
section Write

/-- A year with at least four digits; one that is not of four digits has a sign. -/
def writeYear (y : Int) : Text :=
  let digits := Decimal.writePadded 4 y.natAbs
  if y < 0 then "-" ++ digits else if y ≤ 9999 then digits else "+" ++ digits

def write (t : Timestamp) : Text :=
  writeYear t.year ++ "-" ++ Decimal.writePadded 2 t.month ++ "-" ++ Decimal.writePadded 2 t.day ++
    " " ++ Decimal.writePadded 2 t.hour ++ ":" ++ Decimal.writePadded 2 t.minute ++ ":" ++
    Decimal.writePadded 2 t.second

end Write

/-! ### Reading -/
section Read

/-- The digits at the start of a text, at most `limit` of them, and what follows them. -/
def spanDigits : (limit : Nat) → Text → Text × Text
  | limit + 1, c :: t =>
    if c.isDigit then
      let (ds, rest) := spanDigits limit t
      (c :: ds, rest)
    else ([], c :: t)
  | _, t => ([], t)

/-- A number of at least one and at most `limit` digits at the start of a text. -/
def digits? (limit : Nat) (t : Text) : Option (Nat × Text) :=
  match spanDigits limit t with
  | ([], _) => none
  | (ds, rest) => some (Decimal.value 0 ds, rest)

/-- A number of one or two digits, possibly with blanks before it. -/
def short? (t : Text) : Option (Nat × Text) := digits? 2 (Text.trimStart t)

/-- A year, possibly with blanks before it: up to four digits, or a sign and any number of them. -/
def year? (t : Text) : Option (Int × Text) :=
  match Text.trimStart t with
  | '-' :: u => (digits? u.length u).map fun (n, rest) => (-(n : Int), rest)
  | '+' :: u => (digits? u.length u).map fun (n, rest) => ((n : Int), rest)
  | u => (digits? 4 u).map fun (n, rest) => ((n : Int), rest)

/-- What follows a given character at the start of a text. -/
def skip? (c : Char) : Text → Option Text
  | d :: t => if d = c then some t else none
  | [] => none

/-- The timestamp that a text states, where `gap?` reads what stands between day and time. -/
def readWith? (gap? : Text → Option Text) (t : Text) : Option Timestamp := do
  let (year, t) ← year? t
  let (month, t) ← short? (← skip? '-' t)
  let (day, t) ← short? (← skip? '-' t)
  let (hour, t) ← short? (← gap? t)
  let (minute, t) ← short? (← skip? ':' t)
  let (second, t) ← short? (← skip? ':' t)
  let stamp : Timestamp := ⟨year, month, day, hour, minute, second⟩
  if t = [] ∧ stamp.isValid then some stamp else none

/-- The timestamp that a text states. -/
def read? (t : Text) : Option Timestamp :=
  -- between day and time stand blanks, or nothing, or else the letter
  readWith? (fun u => some (Text.trimStart u)) t <|> readWith? (skip? 'T') t

end Read

end Timestamp

end NoteLinks
