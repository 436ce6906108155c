import NoteLinks.CrossReference
import NoteLinks.Decimal
import NoteLinks.Fragment
import NoteLinks.Html.Reference
import NoteLinks.Link
import NoteLinks.PublicFile
import NoteLinks.Record.Store

/-!
# Annotated images

The annotation of an image names its source: `id` a media record or `public` a file of the sandbox,
exactly one of them. It may also state the size and further classes. An image that can be had is
shown as a figure; otherwise a note in its place says what is wrong, and one more note names the
keys that are not recognized.
-/

namespace NoteLinks

/-- Why an annotated image cannot be shown. -/
inductive ImageFault where
  | idOrPublic
  | idSyntax (value : Text)
  | notMedia (xref : Text)
  | recordNotFound (xref : Text)
  | unknownTree (tree : Text)
  | accessDenied (xref : Text) (reason : Option Text)
  | noImage (xref : Text)
  | file (fault : PublicFileFault)
deriving DecidableEq, Repr

namespace ImageFault

/-- The fault in the words of a catalog; the reason for denied access is shown as it is. -/
def message (catalog : Catalog) : ImageFault → Text
  | idOrPublic => catalog.format .imageIdOrPublic []
  | idSyntax value => catalog.format .imageIdSyntax [value]
  | notMedia xref => catalog.format .notMedia [xref]
  | recordNotFound xref => catalog.format .recordNotFound [xref]
  | unknownTree tree => catalog.format .unknownTree [tree]
  | accessDenied _ (some reason) => reason
  | accessDenied xref none => catalog.format .accessDenied [xref]
  | noImage xref => catalog.format .noImage [xref]
  | file .sandboxMissing => catalog.format .sandboxMissing []
  | file (.fileNotFound path) => catalog.format .fileNotFound [path]
  | file (.outsideSandbox path) => catalog.format .outsideSandbox [path]
  | file (.notImage path mime) => catalog.format .notImage [path, mime]

end ImageFault

/-- Where an image comes from. -/
inductive ImageSource where
  | media (xref name : Text) (file : MediaFile)
  | publicFile (file : PublicFile)
deriving DecidableEq, Repr

/-- What an annotated image asks for and what comes of it. -/
structure Image where
  width : UInt32
  height : UInt32
  classes : List Text
  source : Except ImageFault ImageSource
  /-- The keys of the annotation that are not recognized. -/
  unknown : List Text

/-- What the images of a page depend on. -/
structure ImageContext where
  settings : Settings
  catalog : Catalog
  page : Page
  store : Archive
  files : FileSystem
  registry : MimeRegistry

namespace Image

/-- A size in digits below `2^32`; anything else is the default. -/
def dimension (value : Option Text) (default : UInt32) : UInt32 :=
  (value.bind Decimal.readUInt32?).getD default

/-- The classes that an annotation names and then the standard ones, each once. -/
def mergeClasses (named : Option Text) (standard : List Text) : List Text :=
  Text.distinct (Text.words (named.getD []) ++ standard)

/-- The class list as it is written. -/
def classList (i : Image) : Text := Text.join " " i.classes

end Image

namespace ImageContext

/-! ### Sources -/
section Sources

/-- The first image of the media record that an `id` names. -/
def media (cx : ImageContext) (id : Text) : Except ImageFault ImageSource :=
  match CrossReference.readMedia? id with
  | none => .error (.idSyntax id)
  | some xref =>
    match cx.store.lookup cx.page.tree xref with
    | .error .unknownTree => .error (.unknownTree cx.page.tree)
    | .error .notFound => .error (.recordNotFound xref)
    | .error (.accessDenied reason) => .error (.accessDenied xref reason)
    | .ok record =>
      if record.kind ≠ .media then .error (.notMedia xref)
      else
        match record.firstImage? with
        | none => .error (.noImage xref)
        | some file => .ok (.media record.xref record.name file)

/-- The file of the sandbox that a path names. -/
def publicFile (cx : ImageContext) (path : Text) : Except ImageFault ImageSource :=
  match PublicFile.resolve cx.registry cx.files cx.settings path with
  | .ok file => .ok (.publicFile file)
  | .error fault => .error (.file fault)

/-- The source that an annotation names. -/
def source (cx : ImageContext) (f : Fragment) : Except ImageFault ImageSource :=
  match f.get? "id", f.get? "public" with
  | some id, none => cx.media id
  | none, some path => cx.publicFile path
  -- neither of them is stated, or both are
  | _, _ => .error .idOrPublic

/-- The image that a fragment asks for. -/
def image (cx : ImageContext) (f : Fragment) : Image where
  width := Image.dimension (f.get? "w") cx.settings.defaultWidth
  height := Image.dimension (f.get? "h") cx.settings.defaultHeight
  classes := Image.mergeClasses (f.get? "cname") cx.settings.imageClasses
  source := cx.source f
  unknown := f.unknown

/-- The image that an address asks for, unless it has no annotation or one without keys. -/
def resolve? (cx : ImageContext) (src : Text) : Option Image := do
  let (_, raw) ← splitAnnotation? src
  let f := Fragment.read .image raw
  if f.isEmpty then none else some (cx.image f)

end Sources

/-! ### Markup -/
section Markup

/-- An attribute with the blank before it. -/
def valueAttribute (name value : Text) : Text :=
  " " ++ name ++ "=\"" ++ Html.escapeValue value ++ "\""

/-- An attribute with a number for its value. -/
def numberAttribute (name : Text) (n : UInt32) : Text :=
  " " ++ name ++ "=\"" ++ Decimal.write n.toNat ++ "\""

/-- The figure for an image at an address; a title is shown as a caption too. -/
def figure (cx : ImageContext) (i : Image) (url : Text) (mime : Option Text) (alt title : Text) :
    Text :=
  "<figure class=\"md-figure\"><img" ++ valueAttribute "src" url ++
    numberAttribute "width" i.width ++ numberAttribute "height" i.height ++
    valueAttribute "class" i.classList ++ valueAttribute "alt" alt ++
    (match mime with
      | some mime => valueAttribute "data-mime" mime
      | none => []) ++
    (if title = [] then (">" : Text)
      else
        valueAttribute "title" title ++ "><figcaption" ++
          valueAttribute "class" (Text.join " " cx.settings.imageTitleClasses) ++ ">" ++
          Html.escapeText title ++ "</figcaption>") ++
    "</figure>"

def noteClass : Text := "md-image-error"

/-- A note about an image, with the classes the image would have. -/
def note (message classes : Text) : Text :=
  "<span" ++
    valueAttribute "class" (if classes = [] then noteClass else noteClass ++ " " ++ classes) ++
    " role=\"alert\">" ++ Html.escapeText message ++ "</span>"

/-- The first text, or the second where the first is empty. -/
def orElse (first second : Text) : Text := if first = [] then second else first

/-- The figure of an image, or the note in its place. -/
def body (cx : ImageContext) (i : Image) (alt title : Text) : Text :=
  match i.source with
  | .ok (.media _ name file) =>
    cx.figure i file.url none (orElse alt name) (orElse title (file.title.getD []))
  | .ok (.publicFile file) => cx.figure i file.url (some file.mime) alt title
  | .error fault => note (fault.message cx.catalog) i.classList

def write (cx : ImageContext) (i : Image) (alt title : Text) : Text :=
  cx.body i alt title ++
    if i.unknown = [] then []
    else note ((LinkFault.unknownKeys i.unknown).message cx.catalog) []

/-- The markup for an image with an address, or nothing where the address is not annotated. -/
def render (cx : ImageContext) (src alt : Text) (title : Option Text) : Text :=
  match cx.resolve? src with
  | none => []
  | some i => cx.write i alt (title.getD [])

end Markup

end ImageContext

end NoteLinks
