import NoteLinks.Markdown.BlockReader

/-!
# Markdown documents

A document is read in two steps: first its blocks, with all definitions, and then the text in each
of them, which can refer to any definition.
-/

namespace NoteLinks.Markdown

/-- The events of a document. -/
def read (document : Text) : List Event :=
  let (blocks, definitions) := readBlocks document
  blocksEvents definitions false false blocks

end NoteLinks.Markdown
