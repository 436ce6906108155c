import NoteLinks.FileSystem
import NoteLinks.Mime
import NoteLinks.Percent
import NoteLinks.Settings
import NoteLinks.Url

/-!
# Public files

Pictures can be shown from one directory, the sandbox. A request is a path relative to it. It is
refused if it is absolute or has a `..` in it, whatever files there are; otherwise every symbolic
link is followed, and the file that is reached must lie below the place of the sandbox itself, name
by name, and must be an image. Whether it is one is guessed from its name.
-/

namespace NoteLinks

/-- A file of the sandbox that may be shown. -/
structure PublicFile where
  /-- The names on the way from the root to the file, without symbolic links. -/
  place : List Text
  url : Text
  mime : Text
deriving DecidableEq, Repr

/-- Why a request for a public file is refused. -/
inductive PublicFileFault where
  | sandboxMissing
  | outsideSandbox (path : Text)
  | fileNotFound (path : Text)
  | notImage (path mime : Text)
deriving DecidableEq, Repr

namespace PublicFile

/-- A request that leaves the sandbox by its wording alone. -/
def leavesSandbox (path : Text) : Bool :=
  FileSystem.isAbsolute path || (FileSystem.names path).any (· == "..")

/-- The names below `root` on the way to a place, if it lies there. -/
def below? : (root place : List Text) → Option (List Text)
  | [], place => some place
  | _ :: _, [] => none
  | r :: root, p :: place => if r = p then below? root place else none

/-- The address of the file with given names below the sandbox. -/
def urlOf (settings : Settings) (names : List Text) : Text :=
  Url.absolute settings.siteUrl
    (Url.dropEndSlashes settings.publicUrl ++ "/" ++ Percent.encodePath names)

/-- The place of the sandbox. -/
def sandbox? (fs : FileSystem) (settings : Settings) : Option (List Text) := do
  (fs.canonical (← settings.sandboxRoot)).toOption

/-- The file of the sandbox that a request names. -/
def resolve (registry : MimeRegistry) (fs : FileSystem) (settings : Settings) (path : Text) :
    Except PublicFileFault PublicFile :=
  match sandbox? fs settings with
  | none => .error .sandboxMissing
  | some root =>
    if leavesSandbox path then .error (.outsideSandbox path)
    else
      match fs.walk false FileSystem.maxLinks root (FileSystem.names path) with
      | .error _ => .error (.fileNotFound path)
      | .ok place =>
        -- links may have led out of the sandbox although the wording does not
        match below? root place with
        | none => .error (.outsideSandbox path)
        | some names =>
          if !fs.isFileAt place then .error (.fileNotFound path)
          else
            let mime := registry.typeOf (place.getLast?.getD [])
            if mime.isImage then .ok ⟨place, urlOf settings names, mime.essence⟩
            else .error (.notImage path mime.essence)

end PublicFile

end NoteLinks
