import NoteLinks.Markdown.Event
import NoteLinks.Text.Blank
import NoteLinks.Text.Punctuation

/-!
# Emphasis

A run of stars, underscores or tildes can open emphasis, close it, or do both or neither; that
depends on the characters beside it. A run that can close is matched with the nearest run before it
that can open. What is left of a run when all matches are made is ordinary text.
-/

namespace NoteLinks.Markdown

/-! ### Runs -/
section Runs

/-- A run of one character that marks emphasis. -/
structure Run where
  mark : Char
  /-- The length of the run where it was written. -/
  length : Nat
  /-- What is left of it. -/
  count : Nat
  opens : Bool
  closes : Bool
deriving DecidableEq, Repr

/-- The run may stand within a word. -/
def worksInWord (mark : Char) (length : Nat) : Bool := mark == '*' || (mark == '~' && 1 < length)

/-- A run between two characters can open emphasis. -/
def canOpen (mark : Char) (length : Nat) (before after : Option Char) : Bool :=
  match after with
  | none => false
  | some a =>
    !Text.isBlank a &&
      match before with
      | none => true
      | some b =>
        (mark == '*' && !Text.isPunctuation a) || (mark == '~' && 1 < length) ||
          (mark == '~' && b == '~' && !Text.isPunctuation a) ||
          Text.isBlank b || Text.isPunctuation b

/-- A run between two characters can close emphasis. -/
def canClose (mark : Char) (length : Nat) (before after : Option Char) : Bool :=
  match before with
  | none => false
  | some b =>
    !Text.isBlank b &&
      match after with
      | none => true
      | some a =>
        (worksInWord mark length && !Text.isPunctuation b) || (mark == '~' && b == '~') ||
          Text.isBlank a || Text.isPunctuation a

namespace Run

/-- A run between two characters. -/
def between (mark : Char) (length : Nat) (before after : Option Char) : Run where
  mark := mark
  length := length
  count := length
  opens := (mark != '~' || length ≤ 2) && canOpen mark length before after
  closes := (mark != '~' || length ≤ 2) && canClose mark length before after

/-- The text of what is left of a run. -/
def text (r : Run) : Text := List.replicate r.count r.mark

/-- An opening run matches a closing one. Tildes match in equal numbers; other marks, where one of
the runs both opens and closes, do not match if their lengths add up to a multiple of three and the
closing length is none itself. -/
def opensFor (r closer : Run) : Bool :=
  r.opens && r.mark == closer.mark &&
    if r.mark = '~' then r.length == closer.length
    else
      (!r.closes && !closer.opens) || (r.length + closer.length) % 3 != 0 || closer.length % 3 == 0

end Run

end Runs

/-! ### Matching -/
section Matching

/-- Events, a run of marks among them, or a hard break, which a backslash may have made. -/
inductive Span where
  | events (es : List Event)
  | run (r : Run)
  | hardBreak (escaped : Bool)
deriving DecidableEq, Repr

namespace Span

/-- A text as a span. -/
def text (t : Text) : Span := .events [.text t]

/-- A span without emphasis: a run is text. -/
def toEvents : Span → List Event
  | events es => es
  | run r => [.text r.text]
  | hardBreak _ => [.hardBreak]

def isRun : Span → Bool
  | run _ => true
  | _ => false

end Span

/-- Events in `n` pairs of strong emphasis. -/
def wrapStrong : Nat → List Event → List Event
  | 0, es => es
  | n + 1, es => wrapStrong n (wrap .strong es)

/-- Events in the emphasis that `count` marks mean. -/
def emphasize (mark : Char) (count : Nat) (es : List Event) : List Event :=
  if mark = '~' then wrap .strikethrough es
  else
    let strong := wrapStrong (count / 2) es
    if count % 2 = 1 then wrap .emphasis strong else strong

/-- Spans among which some runs wait for what closes them. -/
structure OpenSpans where
  /-- The spans, the nearest first. -/
  spans : List Span
  /-- The number of runs among them. -/
  runs : Nat
  /-- Tildes match none of the first `settled` runs. -/
  settled : Nat
deriving DecidableEq, Repr

namespace OpenSpans

def empty : OpenSpans := ⟨[], 0, 0⟩

def push (o : OpenSpans) (s : Span) : OpenSpans := { o with spans := s :: o.spans }

/-- One more run: it waits if it can open, and is text otherwise. -/
def pushRun (o : OpenSpans) (r : Run) : OpenSpans :=
  if r.count = 0 then o
  else if r.opens then { o with spans := .run r :: o.spans, runs := o.runs + 1 }
  else o.push (.text r.text)

/-- No run before this place matches tildes any more. -/
def settle (o : OpenSpans) (mark : Char) : OpenSpans :=
  if mark = '~' then { o with settled := o.runs } else o

end OpenSpans

/-- A run that matches a closing one: the spans above it, the spans below it and the number of runs
among those. -/
structure Opener where
  run : Run
  above : List Span
  below : List Span
  runsBelow : Nat

/-- The nearest run among the spans that matches a closing one; `runs` of the spans are runs, and
the first `settled` of them do not match. -/
def findOpener? (closer : Run) (settled : Nat) : (runs : Nat) → List Span → Option Opener
  | _, [] => none
  | runs, .run r :: below =>
    if runs ≤ settled then none
    else if r.opensFor closer then some ⟨r, [], below, runs - 1⟩
    else
      (findOpener? closer settled (runs - 1) below).map fun o =>
        { o with above := .run r :: o.above }
  | runs, s :: below =>
    (findOpener? closer settled runs below).map fun o => { o with above := s :: o.above }

/-- The run with fewer marks left. -/
def Run.leave (r : Run) (used : Nat) : Run := { r with count := r.count - used }

namespace OpenSpans

/-- The nearest run that matches a closing one. -/
def opener? (o : OpenSpans) (closer : Run) : Option Opener :=
  if closer.closes && closer.count != 0 then
    -- only for tildes it is remembered which runs match nothing
    findOpener? closer (if closer.mark = '~' then o.settled else 0) o.runs o.spans
  else none

/-- The spans after a run that closes emphasis, or opens it if it closes nothing; at most `fuel`
openers are matched. -/
def addRun : (fuel : Nat) → OpenSpans → Run → OpenSpans
  | 0, o, r => o.pushRun r
  | fuel + 1, o, r =>
    match o.opener? r with
    | none => (if r.closes && r.count != 0 then o.settle r.mark else o).pushRun r
    | some found =>
      -- as many marks are used as both runs have; what is left of either may match further
      let used := min found.run.count r.count
      let inner := found.above.reverse.flatMap Span.toEvents
      let below : OpenSpans := ⟨found.below, found.runsBelow, min o.settled found.runsBelow⟩
      let emphasized := Span.events (emphasize r.mark used inner)
      addRun fuel ((below.pushRun (found.run.leave used)).push emphasized) (r.leave used)

/-- The spans after one more. -/
def add (o : OpenSpans) : Span → OpenSpans
  | .run r => addRun (r.count + 1) o r
  | s => o.push s

def events (o : OpenSpans) : List Event := o.spans.reverse.flatMap Span.toEvents

end OpenSpans

/-- A hard break at the end breaks nothing where runs are matched: its backslash is text. -/
def dropLastBreak (spans : List Span) : List Span :=
  match spans.getLast? with
  | some (.hardBreak escaped) =>
    if spans.any Span.isRun then
      spans.dropLast ++ if escaped then [.text ['\\']] else []
    else spans
  | _ => spans

/-- The events of spans, with emphasis for the runs that match. -/
def resolveEmphasis (spans : List Span) : List Event :=
  ((dropLastBreak spans).foldl OpenSpans.add .empty).events

end Matching

end NoteLinks.Markdown
