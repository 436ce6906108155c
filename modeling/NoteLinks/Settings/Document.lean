import NoteLinks.Settings
import NoteLinks.Yaml.Value

/-!
# Settings as a document

Settings are stated as a YAML mapping. Every setting may be left out and then has its initial value;
keys that name no setting are ignored, but a key must be text and a setting must have a value of
its type.
-/

namespace NoteLinks.Settings

open Yaml (Value Scalar)

/-! ### Writing -/
section ToValue

def textsValue (ts : List Text) : Value := .list (ts.map Value.text)

def numberValue (n : UInt32) : Value := .scalar (.int n.toNat)

/-- A dictionary as a value. -/
def dictionaryValue (d : Dictionary) : Value :=
  .mapping (d.entries.map fun e => (.text e.1, .text e.2))

/-- The document that states all settings. -/
def toValue (s : Settings) : Value :=
  .mapping
    [(.text "site_url", .text s.siteUrl),
      (.text "record_route", .text s.recordRoute),
      (.text "diagram_route", .text s.diagramRoute),
      (.text "sandbox_root", (s.sandboxRoot.map Value.text).getD .null),
      (.text "public_url", .text s.publicUrl),
      (.text "image_classes", textsValue s.imageClasses),
      (.text "image_title_classes", textsValue s.imageTitleClasses),
      (.text "default_width", numberValue s.defaultWidth),
      (.text "default_height", numberValue s.defaultHeight),
      (.text "wikipedia_language", .text s.wikipediaLanguage),
      (.text "expand_links", .scalar (.bool s.expandLinks)),
      (.text "help", .mapping
        [(.text "wiki_base", .text s.help.wikiBase),
          (.text "default_url", .text s.help.defaultUrl)]),
      (.text "messages", dictionaryValue s.messages),
      (.text "log_level", .text s.logLevel)]

end ToValue

/-! ### Reading -/
section OfValue

def text? : Value → Option Text
  | .scalar (.text t) => some t
  | _ => none

/-- The text that a value is, or none for null. -/
def optionalText? : Value → Option (Option Text)
  | .scalar .null => some none
  | v => (text? v).map some

def bool? : Value → Option Bool
  | .scalar (.bool b) => some b
  | _ => none

/-- The number below `2^32` that a value is. -/
def number? : Value → Option UInt32
  | .scalar (.int n) => if 0 ≤ n ∧ n < UInt32.size then some (UInt32.ofNat n.toNat) else none
  | _ => none

/-- The texts that a value lists; null lists none. -/
def texts? : Value → Option (List Text)
  | .scalar .null => some []
  | .list items => items.mapM text?
  | _ => none

/-- The entries of a mapping whose keys are all text; null has none. -/
def fields? : Value → Option (List (Text × Value))
  | .scalar .null => some []
  | .mapping entries => entries.mapM fun e => (text? e.1).map (·, e.2)
  | _ => none

/-- The dictionary that a mapping of texts to texts is. -/
def dictionary? (v : Value) : Option Dictionary := do
  let entries ← (← fields? v).mapM fun e => (text? e.2).map (e.1, ·)
  some (Dictionary.ofList entries)

/-- The value of a field, which `initial` replaces where the field is left out. -/
def field? {α : Type} (fields : List (Text × Value)) (key : Text) (read? : Value → Option α)
    (initial : α) : Option α :=
  match fields.find? (·.1 == key) with
  | none => some initial
  | some e => read? e.2

/-- The help settings that a value states. -/
def help? (v : Value) : Option HelpSettings := do
  let fields ← fields? v
  some
    { wikiBase := ← field? fields "wiki_base" text? HelpSettings.initial.wikiBase
      defaultUrl := ← field? fields "default_url" text? HelpSettings.initial.defaultUrl }

/-- The settings that a document states. -/
def ofValue? (v : Value) : Option Settings := do
  let fields ← fields? v
  some
    { siteUrl := ← field? fields "site_url" text? initial.siteUrl
      recordRoute := ← field? fields "record_route" text? initial.recordRoute
      diagramRoute := ← field? fields "diagram_route" text? initial.diagramRoute
      sandboxRoot := ← field? fields "sandbox_root" optionalText? initial.sandboxRoot
      publicUrl := ← field? fields "public_url" text? initial.publicUrl
      imageClasses := ← field? fields "image_classes" texts? initial.imageClasses
      imageTitleClasses := ← field? fields "image_title_classes" texts? initial.imageTitleClasses
      defaultWidth := ← field? fields "default_width" number? initial.defaultWidth
      defaultHeight := ← field? fields "default_height" number? initial.defaultHeight
      wikipediaLanguage := ← field? fields "wikipedia_language" text? initial.wikipediaLanguage
      expandLinks := ← field? fields "expand_links" bool? initial.expandLinks
      help := ← field? fields "help" help? initial.help
      messages := ← field? fields "messages" dictionary? initial.messages
      logLevel := ← field? fields "log_level" text? initial.logLevel }

/-- The settings of a document laid over other settings. -/
def over? (base : Settings) (document : Value) : Option Settings :=
  ofValue? (base.toValue.merge document)

end OfValue

end NoteLinks.Settings
