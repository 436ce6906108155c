import NoteLinks.CrossReference
import NoteLinks.Fragment
import NoteLinks.Link
import NoteLinks.Record.Store
import NoteLinks.Settings

/-!
# Expansion of annotated links

An annotated link stands for a chain of links: one or two for every recognized key of its
annotation, in the order of the keys, and one more that names the keys that are not recognized.
Where the records are at hand, a cross-reference is followed only to a record that exists, that the
reader may see and that is of the kind asked for.
-/

namespace NoteLinks

/-- What the links of a page depend on. -/
structure LinkContext where
  settings : Settings
  catalog : Catalog
  page : Page
  /-- The records, where they are at hand. -/
  store : Option Archive

/-- The links that an annotated address stands for. -/
structure Expansion where
  /-- The address without its annotation. -/
  base : Text
  /-- The links of each recognized key, in the order of the keys. -/
  groups : List (List Link)
  /-- The link that names the keys that are not recognized, if there are such keys. -/
  unknown : Option Link
deriving DecidableEq, Repr

namespace Expansion

def links (e : Expansion) : List Link := e.groups.flatten ++ e.unknown.toList

/-- The number of links that come from recognized keys. -/
def recognized (e : Expansion) : Nat := e.groups.flatten.length

/-- The link that takes the place of the annotated one. -/
def replacement (e : Expansion) : Option Link := e.groups.flatten.head?

end Expansion

namespace LinkContext

/-! ### Providers -/
section Providers

/-- The link of a provider's value. -/
def providerLink (cx : LinkContext) (p : Provider) (value : Text) : Link :=
  let target := p.target cx.settings.wikipediaLanguage value
  match target.url? with
  | some url => .leading url target.title p.cssClass
  | none =>
    .error (target.title ++ " - " ++ (LinkFault.providerSyntax p.key value).message cx.catalog)
      p.cssClass

end Providers

/-! ### Cross-references -/
section CrossReferences

/-- An address with its places filled: site, tree, type and identifier, one after the other. -/
def route (cx : LinkContext) (template tree : Text) (kind : RecordKind) (xref : Text) : Text :=
  let t := Text.replaceAll "{site}" cx.settings.siteUrl template
  let t := Text.replaceAll "{tree}" (Percent.encode tree) t
  let t := Text.replaceAll "{type}" kind.segment t
  Text.replaceAll "{xref}" (Percent.encode xref) t

/-- What speaks against following a cross-reference into a tree. Without records nothing does. -/
def fault? (cx : LinkContext) (c : CrossReference) (tree : Text) : Option LinkFault :=
  match cx.store with
  | none => none
  | some store =>
    match store.lookup tree c.xref with
    | .ok record => if c.kind.accepts record.kind then none else some (.notFound c.xref)
    | .error .notFound => some (.notFound c.xref)
    | .error .unknownTree => some (.unknownTree tree)
    | .error (.accessDenied reason) => some (.accessDenied c.xref reason)

/-- The tree that a cross-reference leads to. -/
def treeOf (cx : LinkContext) (c : CrossReference) : Text := c.tree.getD cx.page.tree

/-- The cross-reference leads out of the tree of the page. -/
def leadsAway (cx : LinkContext) (c : CrossReference) : Bool := treeOf cx c != cx.page.tree

/-- The cross-reference leads to the record that the page shows. -/
def isCurrent (cx : LinkContext) (c : CrossReference) : Bool :=
  !leadsAway cx c && cx.page.current == some c.xref

/-- The title of a link to a record; it names the tree if that is not the tree of the page. -/
def recordTitle (cx : LinkContext) (p : Provider) (c : CrossReference) : Text :=
  Provider.titleFor p.title c.xref ++
    if leadsAway cx c then (" (" : Text) ++ treeOf cx c ++ ")" else []

def recordLink (cx : LinkContext) (p : Provider) (c : CrossReference) : Link :=
  .leading (route cx cx.settings.recordRoute (treeOf cx c) c.kind c.xref) (recordTitle cx p c)
    (if isCurrent cx c then p.cssClass ++ " " ++ Link.currentClass else p.cssClass)

def diagramLink (cx : LinkContext) (p : Provider) (c : CrossReference) : Link :=
  .leading (route cx cx.settings.diagramRoute (treeOf cx c) c.kind c.xref)
    (cx.catalog.format .diagram [c.xref]) (p.cssClass ++ " " ++ Link.diagramClass)

/-- The links of a cross-reference's value. A page does not link to the interactive tree of the
record it shows. -/
def crossReferenceLinks (cx : LinkContext) (p : Provider) (value : Text) : List Link :=
  match CrossReference.read? value with
  | none => [.error ((LinkFault.crossReferenceSyntax value).message cx.catalog) p.cssClass]
  | some c =>
    match fault? cx c (treeOf cx c) with
    | some fault => [.error (fault.message cx.catalog) p.cssClass]
    | none =>
      recordLink cx p c ::
        if c.diagram && !isCurrent cx c then [diagramLink cx p c] else []

end CrossReferences

/-! ### Annotations -/
section Annotations

/-- The links of one recognized key. -/
def group (cx : LinkContext) (key value : Text) : List Link :=
  match Provider.ofKey? key with
  | none => []
  | some p =>
    if p.key = Provider.crossReferenceKey then crossReferenceLinks cx p value
    else [providerLink cx p value]

/-- The link that names keys that are not recognized. -/
def unknownLink (cx : LinkContext) (keys : List Text) : Link :=
  ⟨none, (LinkFault.unknownKeys keys).message cx.catalog, Link.errorClass⟩

/-- The expansion of an annotation's fragment. -/
def expansion (cx : LinkContext) (base : Text) (f : Fragment) : Expansion where
  base := base
  groups := f.entries.map fun e => group cx e.1 e.2
  unknown := if f.unknown = [] then none else some (unknownLink cx f.unknown)

/-- The expansion of an address, unless it has no annotation or one without keys. -/
def expand? (cx : LinkContext) (href : Text) : Option Expansion := do
  let (base, raw) ← splitAnnotation? href
  let f := Fragment.read .link raw
  if f.isEmpty then none else some (expansion cx base f)

end Annotations

end LinkContext

end NoteLinks
