import NoteLinks.Help.Sheet

/-!
# Tables of help rules

The rules of a site are kept in memory or in a file. A table in memory may not have been created
yet. Importing a sheet adds its rules to the table or replaces what was there; a sheet with a fault
changes nothing.
-/

namespace NoteLinks.Help

open Utf8 (Bytes)

/-- A table in memory: its rules, once it has been created. -/
structure Table where
  rules : Option (List Rule)
deriving DecidableEq

/-- What an import did. -/
structure ImportSummary where
  imported : Nat
  cleared : Bool
deriving DecidableEq, Repr

namespace Table

def empty : Table := ⟨some []⟩

/-- A table that has not been created. -/
def missing : Table := ⟨none⟩

/-- The table with other rules in the place of its own. -/
def replace (_ : Table) (rules : List Rule) : Table := ⟨some rules⟩

/-- The table with more rules after its own. -/
def extend (t : Table) (rules : List Rule) : Table := ⟨some (t.rules.getD [] ++ rules)⟩

def rows (t : Table) : Except Failure (List Rule) :=
  match t.rules with
  | some rules => .ok rules
  | none => .error (.tableUnavailable "help rules")

def size (t : Table) : Nat := (t.rules.getD []).length

def importSheet (t : Table) (delimiter : UInt8) (clear : Bool) (sheet : Bytes) :
    Except Failure (Table × ImportSummary) := do
  let rules ← readRules delimiter sheet
  .ok (if clear then t.replace rules else t.extend rules, ⟨rules.length, clear⟩)

end Table

/-- The rules of the file that a path leads to. -/
def fileRules (fs : FileSystem) (path : Text) (delimiter : UInt8) : Except Failure (List Rule) :=
  if fs.isFile path then
    match fs.readBytes path with
    | .ok sheet => readRules delimiter sheet
    | .error fault => .error (.file fault)
  else .error (.tableUnavailable path)

end NoteLinks.Help
