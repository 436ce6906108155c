import NoteLinks.Yaml.Layout
import NoteLinks.Yaml.Plain
import NoteLinks.Yaml.Quoted
import NoteLinks.Yaml.Verbatim

/-!
# Tokens of a YAML document

A document is read token by token. Comments and white space between tokens are skipped; which
characters begin a token may depend on whether brackets are open and whether a key can stand here.

Directives, tags, anchors and aliases are left out: no token begins with `%`, `!`, `&` or `*`, and a
document in which one of them stands there is refused.
-/

namespace NoteLinks.Yaml

namespace Layout

/-! ### White space and comments -/
section Space

/-- What follows the white space and comments at the start of a text, and whether a key can stand
there. A byte order mark is skipped at the start of a line, and tabs only where no key can stand. -/
def skipSpace (inFlow : Bool) : (mayBeKey inComment lineStart : Bool) → Text → Text × Bool
  | mayBeKey, _, _, [] => ([], mayBeKey)
  | mayBeKey, inComment, lineStart, c :: t =>
    if isBreak c then skipSpace inFlow (mayBeKey || !inFlow) false true t
    else if inComment then skipSpace inFlow mayBeKey true false t
    else if c = ' ' ∨ (c = '\t' ∧ (inFlow || !mayBeKey)) ∨ (c = Char.ofNat 0xFEFF ∧ lineStart) then
      skipSpace inFlow mayBeKey false false t
    else if c = '#' then skipSpace inFlow mayBeKey true false t
    else (c :: t, mayBeKey)

/-- The layout at the next token: what it leaves is closed. -/
def next? (s : Layout) : Option Layout := do
  let (rest, mayBeKey) :=
    skipSpace s.inFlow s.mayBeKey false (s.place.column == 0) s.ahead
  let s ← ((s.advance rest).allowKey mayBeKey).dropDistant?
  some (s.close s.place.column)

end Space

/-! ### Marks -/
section Marks

/-- The layout after a mark of one character. -/
def mark (k : Token) (s : Layout) : Layout := (s.add k).skip 1

/-- The layout after the mark `---` or `...` that begins a line. -/
def documentMark? (s : Layout) : Option Layout := do
  let k := if s.ahead.head? = some '-' then Token.documentStart else .documentEnd
  let s ← s.closeAll.dropCandidate?
  some (((s.allowKey false).add k).skip 3)

/-- The layout after an opening bracket or brace, which may begin a key. -/
def openFlow? (k : Token) (s : Layout) : Option Layout := do
  let s ← s.saveCandidate?
  some (({ s with candidates := none :: s.candidates }.allowKey true).mark k)

/-- The layout after a closing bracket or brace. -/
def closeFlow? (k : Token) (s : Layout) : Option Layout := do
  let s ← s.dropCandidate?
  let outer := if s.inFlow then s.candidates.tail else s.candidates
  some (({ s with candidates := outer }.allowKey false).mark k)

def comma? (s : Layout) : Option Layout := do
  let s ← s.dropCandidate?
  some ((s.allowKey true).mark .comma)

/-- The layout after the dash before an item. -/
def item? (s : Layout) : Option Layout := do
  if !s.inFlow && !s.mayBeKey then none
  else
    let s ← (s.openHere .listStart).dropCandidate?
    some ((s.allowKey true).mark .item)

/-- The layout after the question mark before a key. -/
def key? (s : Layout) : Option Layout := do
  if !s.inFlow && !s.mayBeKey then none
  else
    let s ← (s.openHere .mappingStart).dropCandidate?
    some ((s.allowKey !s.inFlow).mark .key)

/-- The layout after the colon before a value. If there is a candidate, it is the key. -/
def value? (s : Layout) : Option Layout :=
  match s.candidates with
  | some k :: outer =>
    let s := (s.addAt k.position [.key]).openAt k.place.column k.position .mappingStart
    some (({ s with candidates := none :: outer }.allowKey false).mark .value)
  | _ =>
    if !s.inFlow && !s.mayBeKey then none
    else some (((s.openHere .mappingStart).allowKey !s.inFlow).mark .value)

end Marks

/-! ### Scalars -/
section Scalars

/-- The layout after a plain scalar, which may be a key. -/
def plain? (s : Layout) : Option Layout := do
  if Plain.starts s.ahead then
    let s ← s.saveCandidate?
    let (t, rest, endsLine) ← Plain.read? s.inFlow s.least s.ahead
    some (((s.add (.plain t)).advance rest).allowKey endsLine)
  else none

/-- The layout after a quoted scalar, which may be a key. -/
def quoted? (s : Layout) : Option Layout := do
  let s ← s.saveCandidate?
  let (t, rest) ← Quoted.read? s.ahead
  some (((s.add (.quoted t)).advance rest).allowKey false)

/-- The layout after a verbatim scalar. -/
def verbatim? (s : Layout) : Option Layout := do
  let s ← s.dropCandidate?
  let (t, rest) ← Verbatim.read? s.least s.ahead
  some (((s.add (.quoted t)).advance rest).allowKey true)

end Scalars

/-! ### Documents -/
section Documents

/-- The layout after the token that begins here. -/
def token? (s : Layout) : Option Layout :=
  match s.ahead with
  | [] => some s
  | c :: rest =>
    if s.place.column = 0 ∧ isDocumentMark s.ahead then s.documentMark?
    else
      match c with
      | '[' => s.openFlow? .openBracket
      | '{' => s.openFlow? .openBrace
      | ']' => s.closeFlow? .closeBracket
      | '}' => s.closeFlow? .closeBrace
      | ',' => s.comma?
      | '-' => if atGap rest then s.item? else s.plain?
      | '?' => if s.inFlow || atGap rest then s.key? else s.plain?
      | ':' => if s.inFlow || atGap rest then s.value? else s.plain?
      -- verbatim scalars take whole lines, so there are none inside brackets
      | '|' => if s.inFlow then none else s.verbatim?
      | '>' => if s.inFlow then none else s.verbatim?
      | '"' => s.quoted?
      | '\'' => s.quoted?
      | _ => s.plain?

/-- The layout at the end of a text whose tokens have all been read, at most `fuel` of them. -/
def readAll? : (fuel : Nat) → Layout → Option Layout
  | 0, _ => none
  | fuel + 1, s => do
    let s ← s.next?
    if s.ahead = [] then s.closeAll.dropCandidate?
    else readAll? fuel (← s.token?)

end Documents

end Layout

def Token.ofText? (t : Text) : Option (List Token) :=
  if t.all isPermitted then
    let u := unifyLineEnds t
    (Layout.readAll? (u.length + 1) (.start u)).map (·.tokens.reverse)
  else none

end NoteLinks.Yaml
