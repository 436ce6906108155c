import NoteLinks.Yaml.Gap

/-!
# Plain YAML scalars

A plain scalar is a run of words without quotes around them. It ends before a colon that is followed
by a gap, before a comment, and inside brackets before the marks that structure them. It may go on
over several lines, which are then indented further than what the scalar belongs to.
-/

namespace NoteLinks.Yaml.Plain

/-- The text begins with a colon that ends a key. -/
def isColon (t : Text) : Bool := t.head? == some ':' && atGap (t.drop 1)

/-- A plain scalar can begin here; a dash, a question mark or a colon that means something of its
own has been taken before. -/
def starts (t : Text) : Bool :=
  match t with
  | [] => false
  | c :: _ =>
    !isFlowMark c && !isBlank c &&
      !(['#', '&', '*', '!', '|', '>', '"', '\'', '%', '@', Char.ofNat 96].contains c)

/-- A plain scalar that went on to this place goes on with another word. -/
def continues (flow : Bool) (t : Text) : Bool :=
  match t with
  | [] => false
  | c :: _ => c != '#' && !isColon t && !(flow && isFlowMark c)

/-- The word at the start of a text, and what follows it. Inside brackets a colon cannot stand right
before one of their marks. -/
def word? (flow : Bool) : Text → Option (Text × Text)
  | [] => some ([], [])
  | c :: t =>
    if isBlank c || (flow && isFlowMark c) then some ([], c :: t)
    else if flow && c == ':' && t.head?.any (fun d => d == '?' || isFlowMark d) then none
    else if isColon (c :: t) then some ([], c :: t)
    else (word? flow t).map fun (w, rest) => (c :: w, rest)

/-- The words from here on as one text, what follows them, and whether that stands on a line of its
own. Further lines are indented by at least `least`, unless they stand inside brackets. -/
def words? (flow : Bool) (least : Nat) : (fuel : Nat) → Text → Option (Text × Text × Bool)
  | 0, _ => none
  | fuel + 1, t => do
    let (word, rest) ← word? flow t
    if rest.head?.any isBlank then
      let (gap, rest) ← Gap.read? least rest
      let isOutside := !flow && gap.endsLine && gap.column < least
      if isOutside || gap.leavesDocument rest || !continues flow rest then
        some (word, rest, gap.endsLine)
      else
        let (more, rest, endsLine) ← words? flow least fuel rest
        some (word ++ gap.text ++ more, rest, endsLine)
    else some (word, rest, false)

/-- The plain scalar at the start of a text, what follows it, and whether that stands on a line of
its own. -/
def read? (flow : Bool) (least : Nat) (t : Text) : Option (Text × Text × Bool) :=
  words? flow least (t.length + 1) t

end NoteLinks.Yaml.Plain
