import NoteLinks.Dictionary

/-!
# Messages

Every text that is shown to a reader because something is wrong, or that names the interactive
tree, comes from a catalog of templates. A catalog holds overrides; a message without one has an
English text. Each `%s` of a template is replaced by the next argument.
-/

namespace NoteLinks

/-- The messages that rendering can show. -/
inductive Message where
  | unknownKeys
  | crossReferenceSyntax
  | recordNotFound
  | accessDenied
  | unknownTree
  | diagram
  | providerSyntax
  | imageIdOrPublic
  | imageIdSyntax
  | notMedia
  | noImage
  | sandboxMissing
  | fileNotFound
  | outsideSandbox
  | notImage
deriving DecidableEq, Repr

namespace Message

def all : List Message :=
  [unknownKeys, crossReferenceSyntax, recordNotFound, accessDenied, unknownTree, diagram,
    providerSyntax, imageIdOrPublic, imageIdSyntax, notMedia, noImage, sandboxMissing,
    fileNotFound, outsideSandbox, notImage]

/-- The key under which a catalog overrides the message. -/
def key : Message → Text
  | unknownKeys => "fragment.unknown-keys"
  | crossReferenceSyntax => "xref.syntax"
  | recordNotFound => "xref.not-found"
  | accessDenied => "xref.access-denied"
  | unknownTree => "xref.unknown-tree"
  | diagram => "xref.diagram"
  | providerSyntax => "provider.syntax"
  | imageIdOrPublic => "image.id-or-public"
  | imageIdSyntax => "image.id-syntax"
  | notMedia => "image.not-media"
  | noImage => "image.none"
  | sandboxMissing => "public.sandbox-missing"
  | fileNotFound => "public.not-found"
  | outsideSandbox => "public.outside-sandbox"
  | notImage => "public.not-image"

/-- The template of the message where no catalog overrides it. -/
def template : Message → Text
  | unknownKeys => "Unknown annotation keys: %s"
  | crossReferenceSyntax => "Invalid cross-reference syntax: %s"
  | recordNotFound => "Record %s does not exist"
  | accessDenied => "Access to record %s is denied"
  | unknownTree => "Tree %s does not exist"
  | diagram => "Interactive tree of %s"
  | providerSyntax => "Invalid %s link syntax: %s"
  | imageIdOrPublic => "Use exactly one of id= or public= for an image"
  | imageIdSyntax => "Invalid media reference %s, expected @XREF@"
  | notMedia => "%s is not a media object"
  | noImage => "No image available for %s"
  | sandboxMissing => "The public file area is missing"
  | fileNotFound => "File %s does not exist"
  | outsideSandbox => "Only sandboxed files are supported: %s"
  | notImage => "%s is not an image (%s)"

def ofKey? (k : Text) : Option Message := all.find? (·.key == k)

end Message

/-- A catalog of templates by message key; keys of no message are kept and never used. -/
abbrev Catalog := Dictionary

namespace Catalog

/-- The pieces of a template with one argument after each piece but the last; surplus places stay
empty and surplus arguments are dropped. -/
def fill : List Text → List Text → Text
  | [], _ => []
  | [p], _ => p
  | p :: ps, [] => p ++ fill ps []
  | p :: ps, a :: args => p ++ a ++ fill ps args

/-- The template that the catalog has for a message. -/
def template (catalog : Catalog) (m : Message) : Text :=
  (catalog.get? m.key).getD m.template

/-- The text of a message: arguments replace the marks `%s` from left to right. -/
def format (catalog : Catalog) (m : Message) (args : List Text) : Text :=
  fill (Text.pieces '%' ['s'] (template catalog m)) args

end Catalog

end NoteLinks
