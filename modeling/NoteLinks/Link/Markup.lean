import NoteLinks.Html.Anchor
import NoteLinks.Link.Expansion

/-!
# Annotated links in HTML

An anchor whose `href` is annotated is replaced by the chain of anchors for its links. The first of
them keeps the attributes and the content of the anchor; the others have no content. Where no key of
the annotation is recognized the anchor itself stays, without the annotation. All else in the
document stays as it is.
-/

namespace NoteLinks

open Html

/-! ### Attributes of a link -/
section LinkAttributes

/-- The class list with the classes of a link added, each class once. -/
def Link.classesOver (l : Link) (existing : Text) : Text :=
  Text.join " " (Text.distinct (Text.words existing ++ Text.words l.cssClass))

/-- Attributes with the address set; without an address the anchor is marked as a link that is
disabled. -/
def Link.setHref (l : Link) (as : List Attribute) : List Attribute :=
  match l.href with
  | some href => setAttribute "href" href as
  | none =>
    setAttribute "aria-disabled" "true" (setAttribute "role" "link" (removeAttribute "href" as))

/-- Attributes with address, title and classes of a link. -/
def Link.applyTo (l : Link) (as : List Attribute) : List Attribute :=
  let as := setAttribute "title" l.title (l.setHref as)
  setAttribute "class" (l.classesOver ((attribute? "class" as).getD [])) as

end LinkAttributes

/-! ### Chains of anchors -/
section Chains

def writeAnchor (as : List Attribute) (content : Text) : Text :=
  "<a" ++ writeAttributes as ++ ">" ++ content ++ "</a>"

/-- The anchor of a link that follows the first one. -/
def Link.writeSibling (l : Link) : Text := writeAnchor (l.applyTo []) []

/-- The attributes of an anchor that keeps its place but loses its annotation. -/
def unannotated (base : Text) (as : List Attribute) : List Attribute :=
  if base = [] then removeAttribute "href" as else setAttribute "href" base as

/-- The chain of anchors that an expansion puts in the place of an anchor. -/
def Expansion.write (e : Expansion) (as : List Attribute) (content : Text) : Text :=
  match e.replacement with
  | some first =>
    writeAnchor (first.applyTo as) content ++ (e.links.drop 1).flatMap Link.writeSibling
  | none =>
    -- no link takes the place of the address, so all of them follow the anchor
    writeAnchor (unannotated e.base as) content ++ e.links.flatMap Link.writeSibling

end Chains

namespace LinkContext

/-- The text that takes the place of an anchor. -/
def expandAnchor (cx : LinkContext) (a : Anchor) : Text :=
  let as := readAttributes a.attributes
  match (attribute? "href" as).bind cx.expand? with
  | some e => e.write as a.content
  | none => a.raw

/-- The text that takes the place of a piece of a document. -/
def expandPiece (cx : LinkContext) : Piece → Text
  | .char c => [c]
  | .anchor a => expandAnchor cx a

/-- The document with every anchor replaced. -/
def expandAnchors (cx : LinkContext) (html : Text) : Text :=
  (pieces html).flatMap cx.expandPiece

/-- The document with its annotated anchors expanded. One without `#` is not looked at. -/
def expandHtml (cx : LinkContext) (html : Text) : Text :=
  if html.contains '#' then cx.expandAnchors html else html

/-- The context for the messages that the settings state. -/
def ofSettings (settings : Settings) (page : Page) (store : Option RecordStore) : LinkContext :=
  ⟨settings, settings.messages, page, store.map RecordStore.archive⟩

end LinkContext

end NoteLinks
