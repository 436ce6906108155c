import NoteLinks.Text.Blank
import NoteLinks.Text.Digit

/-!
# Map views

The value that names a view of a map is `zoom/latitude/longitude`, optionally followed by a slash
and either `!` for a marker at that place or a text to search for near it. The three numbers are
kept as they are written: a zoom of one or two digits, and coordinates with a sign, up to two or
three digits and possibly a fraction.
-/

namespace NoteLinks

/-- What a map view shows besides the map. -/
inductive MapFocus where
  | plain
  | marker
  | search (query : Text)
deriving DecidableEq, Repr

/-- A view of a map. -/
structure MapView where
  zoom : Text
  latitude : Text
  longitude : Text
  focus : MapFocus
deriving DecidableEq, Repr

namespace MapView

/-- From one to `limit` digits. -/
def isShortNumber (limit : Nat) (t : Text) : Bool :=
  1 ≤ t.length && t.length ≤ limit && t.all Text.isDigit

/-- From one to `limit` digits, then possibly a point and one or more digits. -/
def isMagnitude (limit : Nat) (t : Text) : Bool :=
  match Text.cutWhere? (· == '.') t with
  | none => isShortNumber limit t
  | some (whole, fraction) =>
    isShortNumber limit whole && fraction != [] && fraction.all Text.isDigit

/-- A magnitude, possibly with a minus sign before it. -/
def isCoordinate (limit : Nat) : Text → Bool
  | '-' :: t => isMagnitude limit t
  | t => isMagnitude limit t

/-- What the text after the longitude asks for. -/
def focusOf (extra : Text) : MapFocus :=
  match Text.trim extra with
  | [] => .plain
  | ['!'] => .marker
  | query => .search query

/-- The view with the given numbers, if they are numbers. -/
def ofParts? (zoom latitude longitude : Text) (focus : MapFocus) : Option MapView :=
  if isShortNumber 2 zoom && isCoordinate 2 latitude && isCoordinate 3 longitude then
    some ⟨zoom, latitude, longitude, focus⟩
  else none

/-- The view that a value names. -/
def read? (value : Text) : Option MapView := do
  let (zoom, rest) ← Text.cutWhere? (· == '/') (Text.trim value)
  let (latitude, rest) ← Text.cutWhere? (· == '/') rest
  match Text.cutWhere? (· == '/') rest with
  | none => ofParts? zoom latitude rest .plain
  | some (longitude, extra) =>
    if '\n' ∈ extra then none else ofParts? zoom latitude longitude (focusOf extra)

end MapView

end NoteLinks
