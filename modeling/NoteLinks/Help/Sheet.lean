import NoteLinks.Failure
import NoteLinks.Help.Rule

/-!
# Sheets of help rules

Help rules travel as delimited text. The header names the columns in any letter case and in any
order; columns of other names are passed over, and four columns must be there. The first row with a
fault decides: nothing of the sheet is used then.
-/

namespace NoteLinks.Help

open Utf8 (Bytes)

/-! ### Delimiters -/
section Delimiter

/-- The delimiter of written rules. -/
def comma : UInt8 := 44

/-- The delimiter that an option names: one ASCII character, or `\t` for a tab. -/
def readDelimiter (option : Text) : Except Failure UInt8 :=
  if option = "\\t" then .ok 9
  else
    match option with
    | [c] =>
      if c.toNat < 128 then .ok (UInt8.ofNat c.toNat) else .error (.config (.delimiter option))
    | _ => .error (.config (.delimiter option))

end Delimiter

/-! ### Columns -/
section Columns

/-- The columns of a sheet. -/
inductive Column where
  | path
  | handler
  | method
  | extras
  | subcontext
  | category
  | order
  | url
  | updatedAt
deriving DecidableEq, Repr

namespace Column

/-- All columns, in the order in which they are written. -/
def all : List Column :=
  [path, handler, method, extras, subcontext, category, order, url, updatedAt]

/-- The name of a column. -/
def name : Column → Text
  | path => "path"
  | handler => "handler"
  | method => "method"
  | extras => "extras"
  | subcontext => "subcontext"
  | category => "category"
  | order => "order"
  | url => "url"
  | updatedAt => "updated_at"

/-- The columns that a sheet must have. -/
def required : List Column := [path, handler, category, url]

/-- The header of a column, in any letter case. -/
def isHeader (c : Column) (header : Text) : Bool := Text.lower header == c.name

end Column

/-- The field of a row in the first column with a given header; a column that is not there is empty
in every row. -/
def cell (headers row : List Text) (c : Column) : Text :=
  match headers.findIdx? c.isHeader with
  | none => []
  | some i => row[i]?.getD []

def missingColumns (headers : List Text) : List Column :=
  Column.required.filter fun c => !headers.any c.isHeader

end Columns

/-! ### Reading -/
section Read

/-- The category that a cell names. -/
def categoryOfCell (t : Text) : Except RowFault Category :=
  match Category.ofName? t with
  | some c => .ok c
  | none => .error (.unknownCategory t)

/-- The order that a cell states; an empty cell states zero. -/
def orderOfCell (t : Text) : Except RowFault Int64 :=
  if t = [] then .ok 0
  else
    match Decimal.readInt64? t with
    | some n => .ok n
    | none => .error (.invalidOrder t)

/-- The timestamp that a cell states; an empty cell states none. -/
def timestampOfCell (t : Text) : Except RowFault (Option Timestamp) :=
  if t = [] then .ok none
  else
    match Timestamp.read? t with
    | some stamp => .ok (some stamp)
    | none => .error (.invalidTimestamp t)

/-- The rule that a row states, given its cells. -/
def ruleOfCells (cell : Column → Text) : Except RowFault Rule := do
  let category ← categoryOfCell (cell .category)
  let order ← orderOfCell (cell .order)
  let updatedAt ← timestampOfCell (cell .updatedAt)
  .ok
    { path := cell .path, handler := cell .handler, method := cell .method
      extras := cell .extras, subcontext := cell .subcontext, category := category
      order := order, url := cell .url, updatedAt := updatedAt }

/-- The texts of a row that has the number `n`, where a row has `width` fields. -/
def rowTexts (n width : Nat) (row : Csv.Row) : Except Failure (List Text) :=
  if row.fields.length ≠ width then
    .error (.row row.position.line (.fieldCount n row.position row.fields.length width))
  else
    -- first the blanks of ASCII go, as bytes, and then those of any script, as characters
    match Csv.texts (row.fields.map Csv.trim) with
    | .error fault => .error (.row row.position.line (.invalidText n row.position fault))
    | .ok texts => .ok (texts.map Text.trim)

/-- The rules of rows, the first of which has the number `n`. -/
def rulesOfRows (headers : List Text) (n : Nat) : List Csv.Row → Except Failure (List Rule)
  | [] => .ok []
  | row :: rows => do
    let texts ← rowTexts n headers.length row
    let rule ← (ruleOfCells (cell headers texts)).mapError (.row row.position.line)
    let rules ← rulesOfRows headers (n + 1) rows
    .ok (rule :: rules)

def headerTexts (row : Csv.Row) : Except Failure (List Text) :=
  match Csv.texts row.fields with
  | .error fault => .error (.row row.position.line (.invalidText 0 row.position fault))
  | .ok texts => .ok (texts.map Text.trim)

/-- The rules of a sheet whose header is known. -/
def rulesUnder (headers : List Text) (rows : List Csv.Row) : Except Failure (List Rule) :=
  match missingColumns headers with
  | [] => rulesOfRows headers 1 rows
  | missing => .error (.row 1 (.missingColumns (missing.map Column.name)))

/-- The rules of a sheet. -/
def readRules (delimiter : UInt8) (sheet : Bytes) : Except Failure (List Rule) :=
  match Csv.rows delimiter sheet with
  | [] => rulesUnder [] []
  | header :: rows => do rulesUnder (← headerTexts header) rows

end Read

/-! ### Writing -/
section Write

/-- The text of a rule in a column. -/
def Rule.cell (r : Rule) : Column → Text
  | .path => r.path
  | .handler => r.handler
  | .method => r.method
  | .extras => r.extras
  | .subcontext => r.subcontext
  | .category => r.category.name
  | .order => Decimal.writeInt r.order.toInt
  | .url => r.url
  | .updatedAt => (r.updatedAt.map Timestamp.write).getD []

/-- The sheet that states rules. -/
def writeRules (delimiter : UInt8) (rules : List Rule) : Bytes :=
  Csv.write delimiter
    (Column.all.map (fun c => Utf8.encode c.name) ::
      rules.map fun r => Column.all.map fun c => Utf8.encode (r.cell c))

end Write

end NoteLinks.Help
