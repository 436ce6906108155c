import NoteLinks.Markdown.Break

/-!
# Raw HTML in Markdown

A tag, a comment, a processing instruction, a declaration or a section of character data stays as it
is. The functions here read one of them from the text after its `<`, and tell what kind of block of
HTML a line begins.
-/

namespace NoteLinks.Markdown

/-! ### Tags -/
section Tags

def isTagNameChar (c : Char) : Bool := c.isAlphanum || c == '-'

def isAttributeNameChar (c : Char) : Bool :=
  c.isAlphanum || c == '_' || c == '.' || c == ':' || c == '-'

/-- The first character of the name of an attribute. -/
def isAttributeStart (c : Char) : Bool := c.isAlpha || c == '_' || c == ':'

/-- A character of a value without quotes. -/
def isBareValueChar (c : Char) : Bool :=
  !(isBreak c || c == ' ' || c == '"' || c == '\'' || c == '=' || c == '<' || c == '>' ||
    c == '\x60')

/-- The text after the value of an attribute. -/
def afterValue? (t : Text) : Option Text :=
  match t with
  | '"' :: t => (Text.cutWhere? (· == '"') t).map (·.2)
  | '\'' :: t => (Text.cutWhere? (· == '\'') t).map (·.2)
  | t => if (t.takeWhile isBareValueChar).isEmpty then none else some (t.dropWhile isBareValueChar)

/-- The text after an attribute, whose name is at the start, and its value, if it has one. -/
def afterAttribute? (t : Text) : Option Text :=
  match t with
  | c :: t =>
    if !isAttributeStart c then none
    else
      let rest := t.dropWhile isAttributeNameChar
      match skipTagBlanks rest with
      | '=' :: u => afterValue? (skipTagBlanks u)
      | _ => some rest
  | [] => none

/-- The text after the attributes and the end of an open tag. -/
def afterAttributes? : (fuel : Nat) → Text → Option Text
  | 0, _ => none
  | fuel + 1, t =>
    match skipTagBlanks t with
    | '>' :: rest => some rest
    | '/' :: '>' :: rest => some rest
    | u => if u.length < t.length then (afterAttribute? u).bind (afterAttributes? fuel) else none

/-- The text after an open tag, whose name is at the start. -/
def afterOpenTag? (t : Text) : Option Text :=
  match t with
  | c :: _ =>
    if c.isAlpha then afterAttributes? (t.length + 1) (t.dropWhile isTagNameChar) else none
  | [] => none

/-- The text after a closing tag, whose name is at the start. -/
def afterClosingTag? (t : Text) : Option Text :=
  match t with
  | c :: _ =>
    if !c.isAlpha then none
    else
      match skipBlanks (t.dropWhile isTagNameChar) with
      | '>' :: rest => some rest
      | _ => none
  | [] => none

def afterTag? : Text → Option Text
  | '/' :: t => afterClosingTag? t
  | t => afterOpenTag? t

end Tags

/-! ### Other pieces -/
section Pieces

/-- The text after the first occurrence of a mark. -/
def afterMark? (mark t : Text) : Option Text := (Text.cut? mark t).map (·.2)

/-- The text after a section of character data: the first brackets in it close it. -/
def afterData? (t : Text) : Option Text :=
  let brackets := t.dropWhile (· != ']')
  match brackets, brackets.dropWhile (· == ']') with
  | _ :: _, '>' :: rest => some rest
  | _, _ => none

/-- The text after a comment, a processing instruction, a declaration or a section of character
data, from behind its `<` on. -/
def afterMarkup? (t : Text) : Option Text :=
  match t with
  | '!' :: '-' :: '-' :: '>' :: rest => some rest
  | '!' :: '-' :: '-' :: '-' :: '>' :: rest => some rest
  | '!' :: '-' :: '-' :: t => afterMark? "-->" t
  | '?' :: t => afterMark? "?>" t
  | '!' :: '[' :: 'C' :: 'D' :: 'A' :: 'T' :: 'A' :: '[' :: t => afterData? t
  | '!' :: c :: t => if c.isAlpha then afterMark? ">" t else none
  | _ => none

/-- The text up to a place, with the `<` before it, and the text from there on. -/
def htmlUpTo (t : Text) (rest : Text) : Text × Text :=
  ('<' :: t.take (t.length - rest.length), rest)

/-- The tag after a `<`, with its `<`, and what follows it. -/
def readTag? (t : Text) : Option (Text × Text) := (afterTag? t).map (htmlUpTo t)

/-- The piece of HTML that is no tag after a `<`, with its `<`, and what follows it. -/
def readMarkup? (t : Text) : Option (Text × Text) := (afterMarkup? t).map (htmlUpTo t)

end Pieces

/-! ### Blocks -/
section Blocks

/-- What ends a block of HTML. -/
inductive HtmlEnd where
  /-- A line that holds a mark is the last one. -/
  | mark (t : Text)
  /-- A blank line follows the last one. -/
  | blankLine
deriving DecidableEq, Repr

/-- The elements whose content is not Markdown. -/
def verbatimElements : List Text := ["pre", "style", "script", "textarea"]

/-- The elements that begin a block wherever their tag begins a line. -/
def blockElements : List String :=
  ["address", "article", "aside", "base", "basefont", "blockquote", "body", "caption", "center",
    "col", "colgroup", "dd", "details", "dialog", "dir", "div", "dl", "dt", "fieldset",
    "figcaption", "figure", "footer", "form", "frame", "frameset", "h1", "h2", "h3", "h4", "h5",
    "h6", "head", "header", "hr", "html", "iframe", "legend", "li", "link", "main", "menu",
    "menuitem", "nav", "noframes", "ol", "optgroup", "option", "p", "param", "search", "section",
    "summary", "table", "tbody", "td", "tfoot", "th", "thead", "title", "tr", "track", "ul"]

/-- Nothing, a character of a class or `>` follows the name of an element. -/
def endsName (blank : Char → Bool) (t : Text) : Bool :=
  match t with
  | [] => true
  | c :: _ => blank c || c == '>'

/-- The mark that ends the block which a line begins, from behind its `<` on, where only a mark ends
it. -/
def markedEnd? (t : Text) : Option Text :=
  let name := Text.lower (t.takeWhile Char.isAlphanum)
  if verbatimElements.contains name ∧ endsName isTagBlank (t.dropWhile Char.isAlphanum) then
    some ("</" ++ name ++ ">")
  else
    match t with
    | '!' :: '-' :: '-' :: _ => some "-->"
    | '?' :: _ => some "?>"
    | '!' :: '[' :: 'C' :: 'D' :: 'A' :: 'T' :: 'A' :: '[' :: _ => some "]]>"
    | '!' :: c :: _ => if c.isAlpha then some ">" else none
    | _ => none

/-- The text after `<` begins with the tag of an element that begins a block. -/
def beginsBlock (t : Text) : Bool :=
  let u := if t.head? = some '/' then t.drop 1 else t
  let rest := u.dropWhile Char.isAlphanum
  blockElements.contains (Text.asString (Text.lower (u.takeWhile Char.isAlphanum))) &&
    (endsName (fun c => isBreak c || c == ' ' || c == '\t') rest ||
      (['/', '>'] : Text).isPrefixOf rest)

/-- The block of HTML that a line begins, from behind its `<` on, where it may end a paragraph. -/
def interruptingHtml? (t : Text) : Option HtmlEnd :=
  match markedEnd? t with
  | some mark => some (.mark mark)
  | none => if beginsBlock t then some .blankLine else none

/-- A whole tag stands alone on the line, from behind its `<` on. -/
def isLoneTag (t : Text) : Bool :=
  match afterTag? (cutLine t).line with
  | some rest => rest.all isInlineBlank
  | none => false

/-- The block of HTML that a line begins, from behind its `<` on. -/
def htmlBlock? (t : Text) : Option HtmlEnd :=
  interruptingHtml? t <|> if isLoneTag t then some .blankLine else none

end Blocks

end NoteLinks.Markdown
