import NoteLinks.Message
import NoteLinks.Provider

/-!
# Links

A link has a title, classes and an address; a link that cannot be followed has no address, and its
title says why.
-/

namespace NoteLinks

/-- A link as it is shown. -/
structure Link where
  href : Option Text
  title : Text
  cssClass : Text
deriving DecidableEq, Repr

namespace Link

def isError (l : Link) : Bool := l.href.isNone

/-- The class of links that cannot be followed. -/
def errorClass : Text := "link-error"

/-- The class of a link to the record that the page shows. -/
def currentClass : Text := "link-xref-current"

/-- The class of a link to an interactive tree. -/
def diagramClass : Text := "link-xref-diagram"

/-- A link that can be followed. -/
def leading (href title cssClass : Text) : Link := ⟨some href, title, cssClass⟩

/-- A link of a provider that cannot be followed. -/
def error (title providerClass : Text) : Link :=
  ⟨none, title, errorClass ++ " " ++ providerClass⟩

end Link

/-- The page on which links stand. -/
structure Page where
  /-- The tree that the page belongs to. -/
  tree : Text
  /-- The record that the page shows, if it shows one. -/
  current : Option Text
deriving DecidableEq, Repr

/-- Why an annotation gives no link that can be followed. -/
inductive LinkFault where
  | crossReferenceSyntax (value : Text)
  | providerSyntax (key value : Text)
  | notFound (xref : Text)
  | accessDenied (xref : Text) (reason : Option Text)
  | unknownTree (tree : Text)
  | unknownKeys (keys : List Text)
deriving DecidableEq, Repr

namespace LinkFault

/-- The fault in the words of a catalog; the reason for denied access is shown as it is. -/
def message (catalog : Catalog) : LinkFault → Text
  | crossReferenceSyntax value => catalog.format .crossReferenceSyntax [value]
  | providerSyntax key value => catalog.format .providerSyntax [key, value]
  | notFound xref => catalog.format .recordNotFound [xref]
  | accessDenied _ (some reason) => reason
  | accessDenied xref none => catalog.format .accessDenied [xref]
  | unknownTree tree => catalog.format .unknownTree [tree]
  | unknownKeys keys => catalog.format .unknownKeys [Text.join ", " keys]

end LinkFault

end NoteLinks
