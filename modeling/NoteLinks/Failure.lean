import NoteLinks.Csv
import NoteLinks.Decimal
import NoteLinks.FileSystem
import NoteLinks.Settings
import NoteLinks.Text.Quoted

/-!
# Failures

What can go wrong when settings, records or help rules are read or written. A failure names its
cause; `Failure.message` says it in words.
-/

namespace NoteLinks

/-- What is wrong with settings or an option, or with the file that states them. -/
inductive ConfigFault where
  | settings (fault : SettingsFault)
  /-- The document is no YAML, or a setting has a value of another type. -/
  | invalidDocument
  | unreadable (path : Text) (fault : FileFault)
  | unwritable (path : Text) (fault : FileFault)
  | unreadableRecords (path : Text) (fault : FileFault)
  | unknownProfile (name : Text)
  | delimiter (option : Text)
deriving DecidableEq, Repr

namespace ConfigFault

/-- The fault in words. -/
def message : ConfigFault → Text
  | settings fault => fault.message
  | invalidDocument => "Invalid configuration"
  | unreadable path fault => "Failed to load config from " ++ path ++ ": " ++ fault.message
  | unwritable path fault => "Failed to save config to " ++ path ++ ": " ++ fault.message
  | unreadableRecords path fault => "Failed to load records from " ++ path ++ ": " ++ fault.message
  | unknownProfile name => "Unknown profile '" ++ name ++ "'"
  | delimiter option =>
    "Delimiter must be a single character or \\t, got " ++ Text.quote option

end ConfigFault

/-- What is wrong with a row of help rules. -/
inductive RowFault where
  | missingColumns (names : List Text)
  | unknownCategory (written : Text)
  | invalidOrder (written : Text)
  | invalidTimestamp (written : Text)
  /-- A row, at a position, with another number of fields than the header. -/
  | fieldCount (row : Nat) (position : Csv.Position) (found expected : Nat)
  /-- A row, at a position, with a field that is no UTF-8. -/
  | invalidText (row : Nat) (position : Csv.Position) (fault : Csv.FieldFault)
  /-- The sheet cannot be read; no line of it is at fault then. -/
  | unreadable (fault : FileFault)
deriving DecidableEq, Repr

namespace RowFault

/-- The fault in words. -/
def message : RowFault → Text
  | missingColumns names => "Missing columns: " ++ Text.join ", " names
  | unknownCategory written => "Unknown category " ++ Text.quote written
  | invalidOrder written => "Invalid order " ++ Text.quote written
  | invalidTimestamp written => "Invalid timestamp " ++ Text.quote written
  | fieldCount row position found expected =>
    "CSV error: record " ++ Decimal.write row ++ " (line: " ++ Decimal.write position.line ++
      ", byte: " ++ Decimal.write position.byte ++ "): found record with " ++ Decimal.write found ++
      " fields, but the previous record has " ++ Decimal.write expected ++ " fields"
  | invalidText row position fault =>
    "CSV parse error: record " ++ Decimal.write row ++ " (line " ++ Decimal.write position.line ++
      ", field: " ++ Decimal.write fault.field ++ ", byte: " ++ Decimal.write position.byte ++
      "): invalid utf-8: invalid UTF-8 in field " ++ Decimal.write fault.field ++
      " near byte index " ++ Decimal.write fault.validUpTo
  | unreadable fault => fault.message

end RowFault

/-- Why something could not be read or written. -/
inductive Failure where
  | file (fault : FileFault)
  | fileNotFound (path : Text)
  /-- A list of records is no YAML or has a part of another type. -/
  | invalidRecords
  | config (fault : ConfigFault)
  /-- The help rules have a fault on a line. -/
  | row (line : Nat) (fault : RowFault)
  | tableUnavailable (name : Text)
deriving DecidableEq, Repr

namespace Failure

/-- The failure in words. -/
def message : Failure → Text
  | file fault => "I/O error: " ++ fault.message
  | fileNotFound path => "File not found: " ++ path
  | invalidRecords => "Parse error: Invalid record fixture"
  | config fault => "Configuration error: " ++ fault.message
  | row line fault => "Import error on line " ++ Decimal.write line ++ ": " ++ fault.message
  | tableUnavailable name => "Table unavailable: " ++ name

end Failure

end NoteLinks
