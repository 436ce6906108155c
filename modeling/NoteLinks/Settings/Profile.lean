import NoteLinks.Settings

/-!
# Profiles

A profile is a set of settings with a name, for one way of running a site. In the client-only
profile links are left to the reader's browser.
-/

namespace NoteLinks

/-- The ways of running a site. -/
inductive Profile where
  | development
  | production
  | clientOnly
deriving DecidableEq, Repr

namespace Profile

def name : Profile → Text
  | development => "development"
  | production => "production"
  | clientOnly => "client-only"

/-- The profile with a given name or short name. -/
def ofName? (n : Text) : Option Profile :=
  if n = "development" ∨ n = "dev" then some development
  else if n = "production" ∨ n = "prod" then some production
  else if n = "client-only" then some clientOnly
  else none

def settings : Profile → Settings
  | development => { Settings.initial with logLevel := "DEBUG", expandLinks := true }
  | production => { Settings.initial with logLevel := "INFO", expandLinks := true }
  | clientOnly => { Settings.initial with logLevel := "WARN", expandLinks := false }

end Profile

end NoteLinks
