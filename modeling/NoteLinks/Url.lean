import NoteLinks.Text

/-!
# URLs

The library tells apart two kinds of URL: those that name an `http` or `https` server and those
that are relative to a site.
-/

namespace NoteLinks.Url

/-- The URL begins with `http://` or `https://`, in any letter case. -/
def isHttp (url : Text) : Bool :=
  Text.startsWithLetters url "http://" || Text.startsWithLetters url "https://"

def dropSlashes (t : Text) : Text := t.dropWhile (· == '/')

def dropEndSlashes (t : Text) : Text := (t.reverse.dropWhile (· == '/')).reverse

/-- `base` and `path` with exactly one slash where they meet. -/
def under (base path : Text) : Text := dropEndSlashes base ++ "/" ++ dropSlashes path

/-- An `http` URL as it is, and any other URL below the site. -/
def absolute (site url : Text) : Text := if isHttp url then url else under site url

end NoteLinks.Url
