import NoteLinks.Utf8

/-!
# Delimited text

A table is written as rows of fields. The delimiter stands between the fields of a row and a line
break ends it; a field that holds one of these or a quote is written in double quotes with its
quotes doubled. Reading accepts any bytes: line feeds and carriage returns both end a row, rows
without any byte are passed over, quotes inside a bare field are ordinary, and what follows a
closing quote belongs to the field.
-/

namespace NoteLinks.Csv

open Utf8 (Bytes)

def quote : UInt8 := 34

def lineFeed : UInt8 := 10

def carriageReturn : UInt8 := 13

def endsRow (b : UInt8) : Bool := b == lineFeed || b == carriageReturn

/-! ### Writing -/
section Write

/-- The field cannot be written as it is. -/
def needsQuotes (delimiter : UInt8) (field : Bytes) : Bool :=
  field.any fun b => b == delimiter || b == quote || endsRow b

def doubleQuotes (field : Bytes) : Bytes :=
  field.flatMap fun b => if b = quote then [quote, quote] else [b]

/-- A field, in quotes if it needs them. -/
def writeField (delimiter : UInt8) (field : Bytes) : Bytes :=
  if needsQuotes delimiter field then quote :: doubleQuotes field ++ [quote] else field

def writeRow (delimiter : UInt8) (fields : List Bytes) : Bytes :=
  List.intercalate [delimiter] (fields.map (writeField delimiter)) ++ [lineFeed]

def write (delimiter : UInt8) (rows : List (List Bytes)) : Bytes :=
  rows.flatMap (writeRow delimiter)

end Write

/-! ### Fields -/
section Fields

/-- A field that was read, whether its row goes on, and the bytes after it. -/
structure Field where
  content : Bytes
  goesOn : Bool
  rest : Bytes

def Field.cons (b : UInt8) (f : Field) : Field := { f with content := b :: f.content }

/-- The field that bytes outside quotes begin with. -/
def bareField (delimiter : UInt8) : Bytes → Field
  | [] => ⟨[], false, []⟩
  | b :: bs =>
    if b = delimiter then ⟨[], true, bs⟩
    else if endsRow b then ⟨[], false, bs⟩
    else (bareField delimiter bs).cons b

/-- The field that bytes after an opening quote begin with. -/
def quotedField (delimiter : UInt8) : Bytes → Field
  | [] => ⟨[], false, []⟩
  | [b] => if b = quote then ⟨[], false, []⟩ else ⟨[b], false, []⟩
  | b :: c :: bs =>
    if b = quote then
      -- a quote that is not doubled ends the quoted part, and the field may go on without quotes
      if c = quote then (quotedField delimiter bs).cons quote else bareField delimiter (c :: bs)
    else (quotedField delimiter (c :: bs)).cons b

def readField (delimiter : UInt8) : Bytes → Field
  | [] => ⟨[], false, []⟩
  | b :: bs => if b = quote then quotedField delimiter bs else bareField delimiter (b :: bs)

theorem length_bareField (delimiter : UInt8) (bs : Bytes) :
    (bareField delimiter bs).rest.length + (bareField delimiter bs).goesOn.toNat ≤ bs.length := by
  induction bs with
  | nil => simp [bareField]
  | cons b bs ih =>
    simp only [bareField]
    split
    · simp
    · split
      · simp
      · simp only [Field.cons, List.length_cons]; omega

theorem length_quotedField (delimiter : UInt8) (bs : Bytes) :
    (quotedField delimiter bs).rest.length + (quotedField delimiter bs).goesOn.toNat ≤
      bs.length := by
  fun_induction quotedField delimiter bs with
  | case1 => simp
  | case2 => simp
  | case3 => simp
  | case4 bs ih => simp only [Field.cons, List.length_cons]; omega
  | case5 c bs =>
    have := length_bareField delimiter (c :: bs)
    simp only [List.length_cons] at this ⊢; omega
  | case6 b c bs _ ih => simp only [Field.cons, List.length_cons] at ih ⊢; omega

theorem length_readField (delimiter : UInt8) (bs : Bytes) :
    (readField delimiter bs).rest.length + (readField delimiter bs).goesOn.toNat ≤ bs.length := by
  cases bs with
  | nil => simp [readField]
  | cons b bs =>
    simp only [readField]
    split
    · have := length_quotedField delimiter bs
      simp only [List.length_cons]; omega
    · exact length_bareField delimiter (b :: bs)

end Fields

/-! ### Rows -/
section Rows

/-- The fields of the row that bytes begin with, and the bytes after it. -/
def readRow (delimiter : UInt8) (bs : Bytes) : List Bytes × Bytes :=
  if _h : (readField delimiter bs).goesOn then
    let (fields, rest) := readRow delimiter (readField delimiter bs).rest
    ((readField delimiter bs).content :: fields, rest)
  else ([(readField delimiter bs).content], (readField delimiter bs).rest)
termination_by bs.length
decreasing_by
  have := length_readField delimiter bs
  simp only [‹(readField delimiter bs).goesOn = true›, Bool.toNat_true] at this
  omega

/-- Where a reader stands: the number of bytes before it and the number of its line. -/
structure Position where
  byte : Nat
  line : Nat
deriving DecidableEq, Repr

/-- The position after more bytes; line feeds end lines. -/
def Position.advance (p : Position) (bs : Bytes) : Position :=
  ⟨p.byte + bs.length, p.line + bs.count lineFeed⟩

/-- A row and where the reader stood before it. -/
structure Row where
  position : Position
  fields : List Bytes
deriving DecidableEq, Repr

theorem length_readRow (delimiter : UInt8) (bs : Bytes) :
    (readRow delimiter bs).2.length ≤ bs.length := by
  fun_induction readRow delimiter bs with
  | case1 bs h fields rest hr ih =>
    have := length_readField delimiter bs
    simp only [hr] at ih ⊢
    omega
  | case2 bs h =>
    have := length_readField delimiter bs
    simp only
    omega

theorem length_readField_lt (delimiter : UInt8) {bs : Bytes} (h : bs ≠ []) :
    (readField delimiter bs).rest.length < bs.length := by
  have bare : ∀ bs : Bytes, bs ≠ [] → (bareField delimiter bs).rest.length < bs.length := by
    intro bs
    induction bs with
    | nil => simp
    | cons b bs ih =>
      intro _
      simp only [bareField]
      split
      · simp
      · split
        · simp
        · cases bs with
          | nil => simp [Field.cons, bareField]
          | cons c bs =>
            have := ih (by simp)
            simp only [Field.cons, List.length_cons] at this ⊢; omega
  cases bs with
  | nil => exact absurd rfl h
  | cons b bs =>
    simp only [readField]
    split
    · have := length_quotedField delimiter bs
      simp only [List.length_cons]; omega
    · exact bare _ h

theorem length_readRow_lt (delimiter : UInt8) {bs : Bytes} (h : bs ≠ []) :
    (readRow delimiter bs).2.length < bs.length := by
  have h₁ := length_readField_lt delimiter h
  rw [readRow]
  split
  · have := length_readRow delimiter (readField delimiter bs).rest
    simp only
    omega
  · exact h₁

/-- The rows of bytes that begin at a position. -/
def rowsFrom (delimiter : UInt8) (p : Position) (bs : Bytes) : List Row :=
  if _h : bs.dropWhile endsRow = [] then []
  else
    ⟨p, (readRow delimiter (bs.dropWhile endsRow)).1⟩ ::
      rowsFrom delimiter
        (p.advance
          (bs.take (bs.length - (readRow delimiter (bs.dropWhile endsRow)).2.length)))
        (readRow delimiter (bs.dropWhile endsRow)).2
termination_by bs.length
decreasing_by
  have h₁ := length_readRow_lt delimiter ‹bs.dropWhile endsRow ≠ []›
  have h₂ := (List.dropWhile_suffix (l := bs) endsRow).length_le
  omega

def byteOrderMark : Bytes := [0xEF, 0xBB, 0xBF]

/-- The rows of a table; a byte order mark at the start is passed over. -/
def rows (delimiter : UInt8) (bs : Bytes) : List Row :=
  match byteOrderMark.isPrefixOf? bs with
  | some rest =>
    match rowsFrom delimiter ⟨3, 1⟩ rest with
    | [] => []
    | r :: rs => { r with position := ⟨0, 1⟩ } :: rs
  | none => rowsFrom delimiter ⟨0, 1⟩ bs

end Rows

/-! ### Texts of fields -/
section Texts

/-- A blank of ASCII other than the vertical tab. -/
def isAsciiBlank (b : UInt8) : Bool := b == 9 || b == 10 || b == 12 || b == 13 || b == 32

/-- Bytes without the ASCII blanks at both ends. -/
def trim (bs : Bytes) : Bytes :=
  ((bs.dropWhile isAsciiBlank).reverse.dropWhile isAsciiBlank).reverse

/-- A field that is no UTF-8: its number in the row and the number of bytes of it that are. -/
structure FieldFault where
  field : Nat
  validUpTo : Nat
deriving DecidableEq, Repr

/-- The texts of a row's fields, the first of them having the number `n`. -/
def textsFrom (n : Nat) : List Bytes → Except FieldFault (List Text)
  | [] => .ok []
  | f :: fs =>
    match Utf8.decode? f with
    | none => .error ⟨n, Utf8.validUpTo f⟩
    | some t => (textsFrom (n + 1) fs).map (t :: ·)

/-- The texts of a row's fields. -/
def texts (fields : List Bytes) : Except FieldFault (List Text) := textsFrom 0 fields

end Texts

end NoteLinks.Csv
