import NoteLinks.Message

/-!
# Settings

A site states where its records, pictures and help pages are and how they are shown. Settings are
usable when they are valid: the site's address ends in a slash, both routes say where the tree and
the record stand in them, pictures have a size and a language is set.
-/

namespace NoteLinks

/-- Where the help pages are. -/
structure HelpSettings where
  /-- The address below which relative help addresses lie. -/
  wikiBase : Text
  /-- The page that is shown where no rule names one. -/
  defaultUrl : Text
deriving DecidableEq

/-- What a site states about itself. -/
structure Settings where
  siteUrl : Text
  /-- The address of a record, with places for site, tree, type and identifier. -/
  recordRoute : Text
  /-- The address of a record's interactive tree, with the same places. -/
  diagramRoute : Text
  /-- The directory of the public files, if there is one. -/
  sandboxRoot : Option Text
  publicUrl : Text
  imageClasses : List Text
  imageTitleClasses : List Text
  defaultWidth : UInt32
  defaultHeight : UInt32
  wikipediaLanguage : Text
  /-- Annotated links are expanded when Markdown is rendered. -/
  expandLinks : Bool
  help : HelpSettings
  messages : Catalog
  logLevel : Text
deriving DecidableEq

/-- What keeps settings from being valid. -/
inductive SettingsFault where
  | siteUrlWithoutSlash (url : Text)
  | missingPlaceholder (route placeholder : Text)
  | zeroImageSize
  | noLanguage
deriving DecidableEq, Repr

namespace SettingsFault

/-- The fault in words. -/
def message : SettingsFault → Text
  | siteUrlWithoutSlash url => "site_url must end with '/': " ++ url
  | missingPlaceholder route placeholder =>
    route ++ " must contain the " ++ placeholder ++ " placeholder"
  | zeroImageSize => "Default image size must be non-zero"
  | noLanguage => "wikipedia_language cannot be empty"

end SettingsFault

namespace HelpSettings

/-- The help settings of a site that states none. -/
def initial : HelpSettings where
  wikiBase := "https://wiki.example.org/"
  defaultUrl := "https://wiki.example.org/en/index.php/Main_Page"

end HelpSettings

namespace Settings

/-- The settings of a site that states nothing. -/
def initial : Settings where
  siteUrl := "/"
  recordRoute := "{site}tree/{tree}/{type}/{xref}"
  diagramRoute := "{site}tree/{tree}/interactive-tree/{xref}"
  sandboxRoot := none
  publicUrl := "/public/"
  imageClasses := ["md-image", "img-fluid"]
  imageTitleClasses := ["md-image-title"]
  defaultWidth := 200
  defaultHeight := 200
  wikipediaLanguage := "en"
  expandLinks := true
  help := .initial
  messages := .empty
  logLevel := "INFO"

/-! ### Validity -/
section Validity

/-- The first placeholder that a route lacks. -/
def routeFault? (name route : Text) : Option SettingsFault :=
  if !Text.hasMark "{xref}" route then some (.missingPlaceholder name "{xref}")
  else if !Text.hasMark "{tree}" route then some (.missingPlaceholder name "{tree}")
  else none

/-- The first fault of the settings, if they have one. -/
def fault? (s : Settings) : Option SettingsFault :=
  if s.siteUrl.getLast? ≠ some '/' then some (.siteUrlWithoutSlash s.siteUrl)
  else
    routeFault? "record_route" s.recordRoute <|>
    routeFault? "diagram_route" s.diagramRoute <|>
    if s.defaultWidth = 0 ∨ s.defaultHeight = 0 then some .zeroImageSize
    else if s.wikipediaLanguage = [] then some .noLanguage
    else none

def Valid (s : Settings) : Prop := s.fault? = none

instance (s : Settings) : Decidable s.Valid := inferInstanceAs (Decidable (s.fault? = none))

end Validity

/-! ### Changes -/
section Changes

/-- One thing that a site can state. -/
inductive Change where
  | siteUrl (url : Text)
  | sandbox (root publicUrl : Text)
  | imageClasses (classes : List Text)
  | help (wikiBase defaultUrl : Text)
  | expandLinks (yes : Bool)
  | message (key text : Text)

/-- The settings with one thing changed. -/
def apply (s : Settings) : Change → Settings
  | .siteUrl url => { s with siteUrl := url }
  | .sandbox root publicUrl => { s with sandboxRoot := some root, publicUrl := publicUrl }
  | .imageClasses classes => { s with imageClasses := classes }
  | .help wikiBase defaultUrl => { s with help := ⟨wikiBase, defaultUrl⟩ }
  | .expandLinks yes => { s with expandLinks := yes }
  | .message key text => { s with messages := s.messages.insert key text }

/-- The initial settings with changes made one after the other, if that makes them valid. -/
def build (changes : List Change) : Except SettingsFault Settings :=
  let s := changes.foldl apply initial
  match s.fault? with
  | none => .ok s
  | some fault => .error fault

end Changes

end Settings

end NoteLinks
