import NoteLinks.Text.Blank
import NoteLinks.Timestamp

/-!
# Help rules

A help rule says which help page belongs to which pages of the site. A page is described by its
route: a path pattern, the handler that answers it, the module it belongs to and its scopes.
-/

namespace NoteLinks.Help

/-- What kind of page a rule is for. -/
inductive Category where
  | standard
  | standardRedirect
  | standardModule
  | customModule
  | generic
deriving DecidableEq, Repr

namespace Category

def all : List Category := [standard, standardRedirect, standardModule, customModule, generic]

def name : Category → Text
  | standard => "standard"
  | standardRedirect => "standard-redirect"
  | standardModule => "standard-module"
  | customModule => "custom-module"
  | generic => "generic"

/-- The category with a name; blanks around the name do not count. -/
def ofName? (n : Text) : Option Category := all.find? (·.name == Text.trim n)

end Category

/-- A help page and the pages it is for. -/
structure Rule where
  path : Text
  handler : Text
  method : Text
  /-- The scopes of the pages, for a generic rule. -/
  extras : Text
  subcontext : Text
  category : Category
  /-- Among rules that match equally well the one with the least order is taken. -/
  order : Int64
  url : Text
  updatedAt : Option Timestamp
deriving DecidableEq

/-- A page of the site. -/
structure Route where
  path : Text
  handler : Text
  scopes : List Text
  module : Option Text
deriving DecidableEq, Repr

/-- The page belongs to a module by its path. -/
def Route.isModuleRoute (r : Route) : Bool := Text.hasMark "/module/" r.path

end NoteLinks.Help
