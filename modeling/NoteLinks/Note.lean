import NoteLinks.Image
import NoteLinks.Link.Markup
import NoteLinks.Markdown.Document
import NoteLinks.Markdown.Images
import NoteLinks.Markdown.Writer

/-!
# Notes

A note is written in Markdown. Its annotated images are rendered while the document is a sequence of
events, its annotated links once it is HTML; the settings can leave the links alone.
-/

namespace NoteLinks.ImageContext

/-- The context of the links that stand beside the images. -/
def linkContext (cx : ImageContext) : LinkContext :=
  ⟨cx.settings, cx.catalog, cx.page, some cx.store⟩

/-- The HTML of a note before its links are expanded. -/
def renderImages (cx : ImageContext) (note : Text) : Text :=
  Markdown.write (Markdown.resolveImages cx.render (Markdown.read note))

/-- The HTML of a note. -/
def renderNote (cx : ImageContext) (note : Text) : Text :=
  if cx.settings.expandLinks then cx.linkContext.expandHtml (cx.renderImages note)
  else cx.renderImages note

/-- The context for the messages that the settings state. -/
def ofSettings (settings : Settings) (page : Page) (store : RecordStore) (files : FileSystem)
    (registry : MimeRegistry) : ImageContext :=
  ⟨settings, settings.messages, page, store.archive, files, registry⟩

end NoteLinks.ImageContext
