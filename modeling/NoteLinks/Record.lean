import NoteLinks.Text

/-!
# Records

A family tree consists of records: persons, families, sources and so on. Notes refer to a record by
its identifier, with or without the kind that is expected there.
-/

namespace NoteLinks

/-- The kinds of record. `generic` asks for a record of any kind. -/
inductive RecordKind where
  | individual
  | family
  | source
  | repository
  | note
  | sharedPlace
  | media
  | generic
deriving DecidableEq, Repr

namespace RecordKind

def all : List RecordKind :=
  [individual, family, source, repository, note, sharedPlace, media, generic]

/-- The kinds that have a one-letter code. -/
def coded : List RecordKind := [individual, family, source, repository, note, sharedPlace]

/-- The letter that asks for the kind in a cross-reference. -/
def code? : RecordKind → Option Char
  | individual => some 'i'
  | family => some 'f'
  | source => some 's'
  | repository => some 'r'
  | note => some 'n'
  | sharedPlace => some 'l'
  | media | generic => none

/-- The kind that a code asks for; no code asks for any kind. -/
def ofCode? : Text → Option RecordKind
  | [] => some generic
  | ['i'] => some individual
  | ['f'] => some family
  | ['s'] => some source
  | ['r'] => some repository
  | ['n'] => some note
  | ['l'] => some sharedPlace
  | _ => none

/-- The segment of a record's URL that names its kind. -/
def segment : RecordKind → Text
  | individual => "individual"
  | family => "family"
  | source => "source"
  | repository => "repository"
  | note => "note"
  | sharedPlace => "shared-place"
  | media => "media"
  | generic => "record"

/-- The name of the kind in a list of records. -/
def name : RecordKind → Text
  | generic => "generic"
  | k => segment k

def ofName? (n : Text) : Option RecordKind := all.find? (·.name == n)

/-- A request for `wanted` is met by a record of kind `actual`. -/
def accepts (wanted actual : RecordKind) : Bool := wanted == generic || wanted == actual

end RecordKind

/-- A file that belongs to a media record. -/
structure MediaFile where
  url : Text
  mime : Text
  title : Option Text
deriving DecidableEq, Repr

namespace MediaFile

/-- The file is an image by its MIME type. -/
def isImage (f : MediaFile) : Bool := (Text.after? "image/" f.mime).isSome

end MediaFile

/-- What is known of a record. -/
structure Record where
  xref : Text
  kind : RecordKind
  name : Text
  mediaFiles : List MediaFile
deriving DecidableEq, Repr

namespace Record

/-- The first file of the record that is an image. -/
def firstImage? (r : Record) : Option MediaFile := r.mediaFiles.find? (·.isImage)

end Record

end NoteLinks
