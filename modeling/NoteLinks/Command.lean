import NoteLinks.Help.Match
import NoteLinks.Help.Table
import NoteLinks.Note
import NoteLinks.Record.Document
import NoteLinks.Settings.File

/-!
# Commands

A command reads files, renders a note, expands the links of a page, looks for a help page or imports
help rules. Its faults say what was tried with which file and, after that, the cause.
-/

namespace NoteLinks

/-- What a command tried in vain, and why. -/
inductive CommandFault where
  | failure (cause : Failure)
  | settings (path : Text) (cause : Failure)
  | records (path : Text) (cause : Failure)
  | rules (path : Text) (cause : Failure)
  | opening (path : Text) (cause : FileFault)
  | importing (path : Text) (cause : Failure)
  | writing (path : Text) (cause : FileFault)
  | input (path : Text) (cause : FileFault)
  | standardInput (cause : FileFault)
deriving DecidableEq, Repr

namespace CommandFault

/-- The fault in words: what was tried, if that is known, and the cause. -/
def chain : CommandFault → List Text
  | failure cause => [cause.message]
  | settings path cause => ["Failed to load configuration " ++ path, cause.message]
  | records path cause => ["Failed to load records " ++ path, cause.message]
  | rules path cause => ["Failed to read rules " ++ path, cause.message]
  | opening path cause => ["Failed to open " ++ path, cause.message]
  | importing path cause => ["Failed to import " ++ path, cause.message]
  | writing path cause => ["Failed to write " ++ path, cause.message]
  | input path cause => ["Failed to read " ++ path, cause.message]
  | standardInput cause => ["Failed to read stdin", cause.message]

/-- The fault on one line. -/
def message (f : CommandFault) : Text := Text.join ": " f.chain

/-- A cause with its lines indented. -/
def indent (t : Text) : Text := "    " ++ Text.replaceAll "\n" "\n    " t

/-- The fault as a report of several lines. -/
def report (f : CommandFault) : Text :=
  match f.chain with
  | [] => []
  | [m] => "Error: " ++ m ++ "\n"
  | m :: causes =>
    "Error: " ++ m ++ "\n\nCaused by:\n" ++ Text.join "\n" (causes.map indent) ++ "\n"

end CommandFault

namespace Command

/-! ### Settings and records -/
section Files

/-- The settings of a profile with those of a file, if there is one, laid over them. -/
def loadSettings (fs : FileSystem) (path : Option Text) (profile : Profile) :
    Except CommandFault Settings :=
  match path with
  | none => .ok profile.settings
  | some path => (Settings.loadOver fs path profile.settings).mapError (.settings path)

/-- The records of a file, or none where no file is named. -/
def loadRecords (fs : FileSystem) (path : Option Text) : Except CommandFault RecordStore :=
  match path with
  | none => .ok .empty
  | some path => (RecordStore.load fs path).mapError (.records path)

end Files

/-! ### Notes and pages -/
section Pages

/-- The HTML of a note. -/
def render (registry : MimeRegistry) (fs : FileSystem) (settings : Settings) (store : RecordStore)
    (page : Page) (note : Text) : Text :=
  (ImageContext.ofSettings settings page store fs registry).renderNote note

/-- A page of HTML with its annotated links expanded; records are checked if there is a store. -/
def expand (settings : Settings) (store : Option RecordStore) (page : Page) (html : Text) : Text :=
  (LinkContext.ofSettings settings page store).expandHtml html

end Pages

/-! ### Help rules -/
section Rules

def helpUrl (fs : FileSystem) (settings : HelpSettings) (rules : Text) (delimiter : UInt8)
    (route : Help.Route) : Text :=
  Help.helpUrl settings (Help.fileRules fs rules delimiter) route

/-- The table that a rules file holds; a file that is not there holds an empty one. -/
def rulesTable (fs : FileSystem) (rules : Text) : Except CommandFault Help.Table :=
  match Help.fileRules fs rules Help.comma with
  | .ok rows => .ok ⟨some rows⟩
  | .error (.tableUnavailable _) => .ok .empty
  | .error cause => .error (.rules rules cause)

/-- The bytes of a sheet. A directory can be opened, but nothing can be read from it. -/
def readSheet (fs : FileSystem) (path : Text) : Except CommandFault Utf8.Bytes :=
  match fs.readBytes path with
  | .ok sheet => .ok sheet
  | .error .isDirectory => .error (.importing path (.row 0 (.unreadable .isDirectory)))
  | .error cause => .error (.opening path cause)

/-- The files after the rules of a table were written into a rules file, with commas. -/
def saveTable (fs : FileSystem) (rules : Text) (table : Help.Table) :
    Except CommandFault FileSystem := do
  let rows ← table.rows.mapError .failure
  (fs.writeBytes rules (Help.writeRules Help.comma rows)).mapError (.writing rules)

/-- Imports a sheet into a rules file: its rules follow those of the file, or replace them if the
file is cleared. The file is written in the last step, so only if nothing fails. -/
def importRules (fs : FileSystem) (rules sheet : Text) (delimiter : UInt8) (clear : Bool) :
    Except CommandFault (FileSystem × Help.ImportSummary) := do
  let table ← if clear then .ok .empty else rulesTable fs rules
  let content ← readSheet fs sheet
  let (table, summary) ←
    (table.importSheet delimiter clear content).mapError (.importing sheet)
  (saveTable fs rules table).map (·, summary)

end Rules

end Command

end NoteLinks
