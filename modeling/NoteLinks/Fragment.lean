import NoteLinks.Percent
import NoteLinks.Provider
import NoteLinks.Text.Order

/-!
# Annotations and their fragments

An annotated URL has the marker `#@` in it. The text before the first marker is the URL proper, the
text after it the annotation: pairs `key=value` between `&`, coded like the components of a query.

Which keys mean something depends on where the URL stands. The fragment of an annotation keeps the
recognized keys in the order of their first occurrence, each with its last value, and the set of
the keys that are not recognized.
-/

namespace NoteLinks

/-! ### The marker -/
section Marker

/-- The text that opens an annotation. -/
def marker : Text := "#@"

/-- The URL before the first marker and the annotation after it. -/
def splitAnnotation? (url : Text) : Option (Text × Text) := Text.cut? marker url

end Marker

/-- Where an annotated URL stands. -/
inductive Place where
  | image
  | link
deriving DecidableEq, Repr

namespace Place

/-- The keys of image annotations. -/
def imageKeys : List Text := ["id", "public", "w", "h", "cname"]

/-- The key means something at this place. -/
def recognizes : Place → Text → Bool
  | image, key => imageKeys.contains key
  | link, key => (Provider.ofKey? key).isSome

end Place

/-- What an annotation says. -/
structure Fragment where
  /-- The recognized keys with their values. -/
  entries : List (Text × Text)
  /-- The other keys, in increasing order. -/
  unknown : List Text
deriving DecidableEq, Repr

namespace Fragment

def empty : Fragment := ⟨[], []⟩

def isEmpty (f : Fragment) : Bool := f.entries.isEmpty && f.unknown.isEmpty

/-- The value of a recognized key. -/
def get? (f : Fragment) (key : Text) : Option Text := (f.entries.find? (·.1 == key)).map (·.2)

/-! ### Reading -/
section Read

/-- Entries with a key set to a value: in its place if it has one, at the end otherwise. -/
def setEntry (key value : Text) : List (Text × Text) → List (Text × Text)
  | [] => [(key, value)]
  | e :: es => if e.1 = key then (key, value) :: es else e :: setEntry key value es

/-- The fragment with one more pair. -/
def add (known : Text → Bool) (f : Fragment) (pair : Text × Text) : Fragment :=
  if known pair.1 then { f with entries := setEntry pair.1 pair.2 f.entries }
  else { f with unknown := Text.insertSorted pair.1 f.unknown }

/-- The key and the value that a piece between two `&` states; a piece without `=` has an empty
value, and one with an empty key states nothing. -/
def pair? (piece : Text) : Option (Text × Text) :=
  let (key, value) := (Text.cutWhere? (· == '=') piece).getD (piece, [])
  let key := Percent.decodeComponent key
  if key = [] then none else some (key, Percent.decodeComponent value)

def pairs (raw : Text) : List (Text × Text) := (Text.splitAt '&' raw).filterMap pair?

/-- The fragment of an annotation where the keys of `known` are recognized. -/
def ofPairs (known : Text → Bool) (ps : List (Text × Text)) : Fragment :=
  ps.foldl (add known) empty

/-- The fragment of an annotation at a place. -/
def read (place : Place) (raw : Text) : Fragment := ofPairs place.recognizes (pairs raw)

end Read

/-! ### Writing -/
section Write

/-- An entry as it is written between two `&`. -/
def writeEntry (e : Text × Text) : Text := Percent.encode e.1 ++ "=" ++ Percent.encode e.2

/-- The annotation that states a fragment: the entries in order, then the other keys. -/
def write (f : Fragment) : Text :=
  Text.join "&" (f.entries.map writeEntry ++ f.unknown.map Percent.encode)

end Write

end Fragment

end NoteLinks
