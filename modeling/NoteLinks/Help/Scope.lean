import NoteLinks.Text.Blank
import NoteLinks.Text.Order

/-!
# Scopes

A scope is a tag such as `admin`. Tags are written one by one or several in one text, between commas
or bars; how they are written, their order and repetitions do not matter.
-/

namespace NoteLinks.Help

/-- The tags of a text: its trimmed parts between commas and bars, without the empty ones. -/
def scopesOf (t : Text) : List Text :=
  ((Text.splitWhere (fun c => c == ',' || c == '|') t).map Text.trim).filter (· != [])

/-- The set of the tags of several texts, as an increasing list. -/
def normalizeScopes (tags : List Text) : List Text := Text.sortDistinct (tags.flatMap scopesOf)

end NoteLinks.Help
