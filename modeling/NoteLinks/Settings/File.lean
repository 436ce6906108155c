import NoteLinks.Failure
import NoteLinks.Settings.Document
import NoteLinks.Settings.Profile
import NoteLinks.Yaml.Reader
import NoteLinks.Yaml.Writer

/-!
# Settings in files

A file states settings that are laid over others, such as those of a profile. A file that does not
exist states nothing; one that does must be readable and leave the settings valid.
-/

namespace NoteLinks.Settings

/-- The settings that a text states, laid over others. -/
def readOver (base : Settings) (t : Text) : Except ConfigFault Settings :=
  match (Yaml.readValue? t).bind (over? base) with
  | none => .error .invalidDocument
  | some s =>
    match s.fault? with
    | none => .ok s
    | some fault => .error (.settings fault)

/-- The settings of the file at a path, laid over others. -/
def loadOver (fs : FileSystem) (path : Text) (base : Settings) : Except Failure Settings :=
  if fs.pathExists path then
    match fs.readText path with
    | .error fault => .error (.config (.unreadable path fault))
    | .ok t => (readOver base t).mapError .config
  else .ok base

def load (fs : FileSystem) (path : Text) : Except Failure Settings := loadOver fs path initial

/-- The file system after the settings were written to a path. -/
def save (fs : FileSystem) (path : Text) (s : Settings) : Except Failure FileSystem :=
  match fs.writeBytes path (Utf8.encode (Yaml.writeDocument s.toValue)) with
  | .ok fs => .ok fs
  | .error fault => .error (.config (.unwritable path fault))

/-- The profile that an option names. -/
def readProfile (option : Text) : Except Failure Profile :=
  match Profile.ofName? option with
  | some p => .ok p
  | none => .error (.config (.unknownProfile option))

end NoteLinks.Settings
