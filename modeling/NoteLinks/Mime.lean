import NoteLinks.Text

/-!
# MIME types

The type of a file is guessed from the extension of its name. Which types an extension stands for is
written in a registry. The registry is kept elsewhere and is a parameter here: nothing is assumed of
it. Of several types the first one counts, and a name without an extension, or with one that the
registry does not list, has the type of arbitrary bytes.
-/

namespace NoteLinks

/-- A MIME type: `image/svg+xml` is of the type `image` and has the subtype `svg+xml`. -/
structure Mime where
  type : Text
  subtype : Text
deriving DecidableEq, Repr

namespace Mime

/-- The type as it is written. -/
def essence (m : Mime) : Text := m.type ++ "/" ++ m.subtype

/-- The type of arbitrary bytes. -/
def octetStream : Mime := ⟨"application", "octet-stream"⟩

def isImage (m : Mime) : Bool := m.type == "image"

end Mime

/-- What is known of extensions: the types that each of them stands for, the preferred one first. -/
structure MimeRegistry where
  types : Text → List Mime

namespace MimeRegistry

/-- The text after the last point of a name; a point at the start of the name begins none. -/
def extension? (name : Text) : Option Text :=
  match name.reverse.span (· != '.') with
  | (_, []) => none
  | (_, [_]) => none
  | (ext, _) => some ext.reverse

/-- The type of a file with a given name. -/
def typeOf (registry : MimeRegistry) (name : Text) : Mime :=
  ((extension? name).bind fun ext => (registry.types ext).head?).getD .octetStream

end MimeRegistry

end NoteLinks
