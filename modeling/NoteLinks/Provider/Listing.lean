import NoteLinks.Provider
import NoteLinks.Record

/-!
# The list of providers

The list shows for each provider its key, its title, where its links lead and their class, and below
that examples of annotations.
-/

namespace NoteLinks.Provider

/-- `t` with blanks after it up to a width. -/
def column (width : Nat) (t : Text) : Text := t ++ List.replicate (width - t.length) ' '

/-- The codes of the kinds of records with the names of the kinds. -/
def kindCodes : Text :=
  Text.join " "
    (RecordKind.coded.filterMap fun k => k.code?.map fun c => c :: '=' :: k.segment)

/-- Where the links of a rule lead, in words. -/
def Rule.describe : Rule → Text
  | .address base => base
  | .article => "custom syntax"
  | .mapView => "custom syntax"
  | .crossReference => "record routes, type codes " ++ kindCodes

/-- The line of an example. -/
def Example.line (e : Example) : Text :=
  "         " ++ column 40 e.annotation ++ " " ++ e.description ++ "\n"

def lines (p : Provider) : Text :=
  column 8 p.key ++ " " ++ column 28 p.title ++ " " ++ p.rule.describe ++ " (" ++ p.cssClass ++
    ")\n" ++ p.examples.flatMap Example.line

def listing : Text := table.flatMap lines

end NoteLinks.Provider
